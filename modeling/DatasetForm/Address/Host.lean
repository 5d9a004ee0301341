import DatasetForm.Text.Runs

/-!
Addresses of network interfaces as they stand in the host of a web address: four numbers of version 4, or
up to eight groups of version 6 with one run of zero groups left out.
-/

set_option autoImplicit false
set_option relaxedAutoImplicit false

namespace DatasetForm

namespace Address

/-- Is the character one of 0 to 9? -/
def isDecimal (c : Char) : Bool :=
  0x30 ≤ c.toNat && c.toNat ≤ 0x39

/-- Is the character a hexadecimal digit? -/
def isHex (c : Char) : Bool :=
  isDecimal c || (0x61 ≤ c.toNat && c.toNat ≤ 0x66) || (0x41 ≤ c.toNat && c.toNat ≤ 0x46)

/-- The number that ASCII digits write. -/
def decimalValue (cs : List Char) : Nat :=
  cs.foldl (fun n c => 10 * n + (c.toNat - 0x30)) 0

/-- Is this a number up to 255 without leading zeros? -/
def isOctet (cs : List Char) : Bool :=
  !cs.isEmpty && cs.all isDecimal && cs.length ≤ 3 && (cs == ['0'] || cs.head? != some '0') &&
    decimalValue cs ≤ 255

/-- Is this an address of version 4? -/
def isVersion4 (cs : List Char) : Bool :=
  let octets := Text.splitAt '.' cs
  octets.length == 4 && octets.all isOctet

/-- Is this a group of an address of version 6? -/
def isGroup (cs : List Char) : Bool :=
  !cs.isEmpty && cs.length ≤ 4 && cs.all isHex

/-- The groups of an address of version 6; an address of version 4 at the end stands for two groups. -/
def groups? (cs : List Char) : Option (List (List Char)) :=
  let parts := Text.splitAt ':' cs
  let last := parts.getLast?.getD []
  if parts.length < 3 then none
  else if last.contains '.' then
    if isVersion4 last then some (parts.dropLast ++ [['0'], ['0']]) else none
  else some parts

/-- Do the groups around a gap make an address? An end may be empty only next to the gap. -/
def fitsAround (before after : List (List Char)) : Bool :=
  let high := if before == [[]] then [] else before
  let low := if after == [[]] then [] else after
  high.length + low.length < 8 && high.all isGroup && low.all isGroup

/-- Do the groups make an address: eight of them, or fewer around one gap? -/
def fitGroups (parts : List (List Char)) : Bool :=
  let inner := (parts.drop 1).dropLast
  if 9 < parts.length then false
  else match inner.count [] with
    | 0 => parts.length == 8 && parts.all isGroup
    | 1 =>
      let gap := inner.idxOf [] + 1
      fitsAround (parts.take gap) (parts.drop (gap + 1))
    | _ => false

/-- The address before a zone, when there is a zone; a zone is not empty and has no percent sign. -/
def withoutZone? (cs : List Char) : Option (List Char) :=
  match Text.cutAt '%' cs with
  | (address, none) => some address
  | (address, some zone) => if zone.isEmpty || zone.contains '%' then none else some address

/-- Is this an address of version 6? -/
def isVersion6 (cs : List Char) : Bool :=
  !cs.contains '/' && (((withoutZone? cs).bind groups?).map fitGroups).getD false

end Address

end DatasetForm
