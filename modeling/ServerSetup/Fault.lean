/-!
# Faults of the system below

A call of a system service fails with a chain of reasons, from what was attempted down to what went
wrong. The last reason is often a kind of input or output error, which carries no text of its own.
-/

namespace ServerSetup

/-- The kinds of input and output errors that are told apart. -/
inductive IoKind
  | notFound | alreadyExists | notADirectory | isADirectory | nameTooLong | invalidInput | linkLoop
  | permissionDenied
deriving DecidableEq

/-- One reason in a chain. -/
inductive Reason
  | said (text : String)
  | io (kind : IoKind)
deriving DecidableEq

/-- A chain of reasons, the outermost first. -/
structure Fault where
  reasons : List Reason
deriving DecidableEq

namespace Fault

/-- A fault with one reason in words. -/
def said (text : String) : Fault := ⟨[.said text]⟩

/-- A fault that is only an input or output error. -/
def io (kind : IoKind) : Fault := ⟨[.io kind]⟩

/-- A fault seen from the attempt that it spoiled. -/
def whileDoing (attempt : String) (f : Fault) : Fault := ⟨.said attempt :: f.reasons⟩

end Fault

end ServerSetup
