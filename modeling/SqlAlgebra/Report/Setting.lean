import SqlAlgebra.Report.Basic
import SqlAlgebra.Text.Quoted

/-!
# Failures of settings

Why a setting cannot be used, and the report of it.
-/

namespace SqlAlgebra

/-- Why a setting cannot be used. -/
inductive SettingError
  /-- Anything that is not about one setting. -/
  | other (message : String)
  /-- A setting is missing. -/
  | notFound (key : String)
  /-- A setting is a text where a whole number is wanted. -/
  | notInteger (key value : String)
deriving DecidableEq, Repr

namespace SettingError

/-- The wording of a failure. -/
def message : SettingError → String
  | other message => message
  | notFound key => "configuration property " ++ Text.quoted key ++ " not found"
  | notInteger key value =>
    "invalid type: string " ++ Text.quoted value ++ ", expected an integer for key `" ++ key ++
      "`"

/-- The setting that is at fault. -/
def field? : SettingError → Option String
  | other _ => none
  | notFound key => some key
  | notInteger key _ => some key

/-- The report of a failure. -/
def toReport (e : SettingError) : Report := .ofConfig e.message none e.field?

end SettingError

end SqlAlgebra
