import ServerSetup.Host
import ServerSetup.Text.AsciiCase

/-!
# A store of filters in memory

The filters of a web server as a plain list, for hosts that have no web server.
-/

namespace ServerSetup.Rehearsal

/-- Filters, their load order, and how often changes were made permanent. -/
structure FilterTable where
  filters : List StoredFilter := []
  loadOrder : String := ""
  commits : Nat := 0
  scriptsDirectory : Option String := none

namespace FilterTable

/-- The entries of other names. -/
def others (t : FilterTable) (name : String) : List StoredFilter :=
  t.filters.filter fun e => ! Text.equalIgnoringCase e.name name

/-- Puts an entry at the end, in place of those with its name. -/
def put (t : FilterTable) (e : StoredFilter) : FilterTable :=
  { t with filters := t.others e.name ++ [e] }

/-- Removes the entries with a name. -/
def remove (t : FilterTable) (name : String) : FilterTable := { t with filters := t.others name }

/-- Makes the changes so far permanent. -/
def commit (t : FilterTable) : FilterTable := { t with commits := t.commits + 1 }

/-- A table that is part of a host's state, as the store of filters of that host. No call fails. -/
def filterStore {η : Type} (get : η → FilterTable) (set : FilterTable → η → η) : FilterStore η :=
  let look : HostM η FilterTable := return get (← MonadState.get).host
  let change (f : FilterTable → FilterTable) : HostM η Unit :=
    modify fun w => { w with host := set (f (get w.host)) w.host }
  { filters := return (← look).filters
    put := fun e => change (·.put e)
    remove := fun name => change (·.remove name)
    loadOrder := return (← look).loadOrder
    putLoadOrder := fun order => change fun t => { t with loadOrder := order }
    commit := change (·.commit)
    scriptsDirectory := return (← look).scriptsDirectory }

end FilterTable

end ServerSetup.Rehearsal
