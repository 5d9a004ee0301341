import DatasetForm.Value.Basic

/-!
Laying configurations over each other. Where both hold a mapping the mappings are laid over each other;
everywhere else the later value takes the place of the earlier one.
-/

set_option autoImplicit false
set_option relaxedAutoImplicit false

namespace DatasetForm

namespace Entries

mutual

/-- A value laid over another, if there is one. -/
def overlayValue (base : Option Value) : Value → Value
  | .mapping top =>
    match base with
    | some (.mapping entries) => .mapping (overlay entries top)
    | _ => .mapping top
  | v => v

/-- Entries laid over others. -/
def overlay (base : List (Value × Value)) : List (Value × Value) → List (Value × Value)
  | [] => base
  | (key, v) :: rest =>
    overlay (Entries.insert base key (overlayValue (Entries.get? base key) v)) rest

end

/-- Configurations laid over each other, the first one lowest. -/
def overlayAll (configs : List Entries) : Entries :=
  configs.foldl overlay []

end Entries

end DatasetForm
