import ServerSetup.Host

/-!
# Faithful service records

What the tool relies on when it reads and writes the records of services. The laws are stated for
any host, through what can be seen of its states by reading: the names that are listed and the
record of each name. A host may do what it likes with the rest of its state.

There are two sets of laws. `Faithful` is about calm states, in which no call fails: reading shows
what is seen and changes nothing of it, writing stores a record and leaves the others, and every
service with a record is listed once. `Keeps` speaks only of the calls that succeed and of the
record of one service at a time, and is used where other calls may fail. Neither says that the host
is deterministic in any other respect, or that its state is what is seen of it.
-/

namespace ServerSetup.ServiceRecords

variable {η : Type}

/-- What can be seen of the states of a host by reading its service records. -/
structure View (η : Type) where
  /-- No call of the service records fails in this state. -/
  calm : η → Prop
  names : η → List String
  record : η → String → Option String

/-- What is seen of a calm state is seen of another one as well. -/
structure View.Same (v : View η) (h h' : η) : Prop where
  calm : v.calm h'
  names : v.names h' = v.names h
  record : v.record h' = v.record h

/-- What is seen of a state is seen of a third one if it is seen of the second. -/
theorem View.Same.trans {v : View η} {h h' h'' : η} (h₁ : v.Same h h') (h₂ : v.Same h' h'') :
    v.Same h h'' :=
  ⟨h₂.calm, h₂.names.trans h₁.names, h₂.record.trans h₁.record⟩

/-- Service records keep what is written to them. In a calm state no call fails, and a call acts on
nothing but the host. Reading shows what is seen and changes nothing of it; writing a record stores
it and leaves the other records alone; and every service with a record is listed, once. -/
structure Faithful (records : ServiceRecords η) (v : View η) : Prop where
  nodup : ∀ h, v.calm h → (v.names h).Nodup
  listed : ∀ h service line, v.calm h → v.record h service = some line → service ∈ v.names h
  list : ∀ w, v.calm w.host →
    ∃ h, records.list w = (.ok (v.names w.host), { w with host := h }) ∧ v.Same w.host h
  record : ∀ w service, v.calm w.host →
    ∃ h, records.record service w = (.ok (v.record w.host service), { w with host := h }) ∧
      v.Same w.host h
  setRecord : ∀ w service line, v.calm w.host →
    ∃ h, records.setRecord service line w = (.ok (), { w with host := h }) ∧ v.calm h ∧
      v.record h service = some line ∧
      ∀ other ≠ service, v.record h other = v.record w.host other

/-- What calls that succeed say about the line of a service, where others may fail: reading shows
the line and leaves it, and writing stores what is written. -/
structure Keeps (records : ServiceRecords η) (line : η → String → Option String) : Prop where
  shows : ∀ {w w' service found}, records.record service w = (.ok found, w') →
    found = line w.host service
  leaves : ∀ {w w' service found}, records.record service w = (.ok found, w') →
    line w'.host service = line w.host service
  stores : ∀ {w w' service text}, records.setRecord service text w = (.ok (), w') →
    line w'.host service = some text

end ServerSetup.ServiceRecords
