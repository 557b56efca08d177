/-!
# Truth values in words

The two words by which a truth value is written, in documents and for reading.
-/

namespace ServerSetup.Text

/-- A truth value in words. -/
def truth : Bool → String
  | true => "true"
  | false => "false"

end ServerSetup.Text
