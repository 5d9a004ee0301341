import DatasetForm.Text.Quoted
import DatasetForm.Text.Utf8

/-!
How it is said that bytes are no text, and that a text has no bytes.
-/

set_option autoImplicit false
set_option relaxedAutoImplicit false

namespace DatasetForm

/-- Why bytes are no text, in words. -/
def Utf8Problem.reason : Utf8Problem → String
  | .start => "invalid start byte"
  | .continuation => "invalid continuation byte"
  | .truncated => "unexpected end of data"

def Utf8Fault.message (fault : Utf8Fault) : String :=
  let place :=
    if fault.size == 1 then
      s!"byte 0x{String.ofList (Text.hexDigits 2 fault.byte)} in position {fault.position}"
    else s!"bytes in position {fault.position}-{fault.position + fault.size - 1}"
  s!"'utf-8' codec can't decode {place}: {fault.problem.reason}"

def HalfFault.message (fault : HalfFault) : String :=
  let place :=
    if fault.size == 1 then
      s!"character '\\u{String.ofList (Text.hexDigits 4 fault.code)}' in position {fault.position}"
    else s!"characters in position {fault.position}-{fault.position + fault.size - 1}"
  s!"'utf-8' codec can't encode {place}: surrogates not allowed"

end DatasetForm
