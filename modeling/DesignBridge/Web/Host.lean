import DesignBridge.Text.Digit
import DesignBridge.Text.Blank
import DesignBridge.Text.Quoted
import DesignBridge.Web.Label
import DesignBridge.Web.Percent

/-! # Hosts

The host of an address is a name or a number. Numeric addresses are checked and stay as written. A
name is put into lower case; one with characters outside ASCII is written label by label in its
ASCII form.
-/

namespace DesignBridge

/-- What is wrong with a host. -/
inductive HostFault where
  | version4 (host : String)
  | version6 (host : String)
  | name (host : String)
  deriving DecidableEq, Repr

def HostFault.message : HostFault → String
  | version4 host => "Invalid IPv4 address: " ++ Text.quoted host
  | version6 host => "Invalid IPv6 address: " ++ Text.quoted host
  | name host => "Invalid IDNA hostname: " ++ Text.quoted host

namespace Host

open Text

/-- Whether a host is taken for a numeric address of version 4: four groups of digits. -/
def looksNumeric (cs : List Char) : Bool :=
  let groups := splitAt '.' cs
  groups.length == 4 && groups.all fun group => !group.isEmpty && group.all isAsciiDigit

/-- Whether digits write a number up to 255 without needless zeros. -/
def isOctet (cs : List Char) : Bool :=
  !cs.isEmpty && cs.all isAsciiDigit && cs.length ≤ 3 && (cs == ['0'] || cs.head? != some '0') &&
    natOfDigits cs ≤ 255

/-- Whether a text is an address of version 4. -/
def isVersion4 (cs : List Char) : Bool :=
  let octets := splitAt '.' cs
  octets.length == 4 && octets.all isOctet

/-- Whether a text is a group of an address of version 6. -/
def isGroup (cs : List Char) : Bool :=
  !cs.isEmpty && cs.length ≤ 4 && cs.all fun c => (hexValue? c).isSome

/-- Drops a zone and its percent sign, unless it is empty or holds another percent sign. -/
def dropZone? (cs : List Char) : Option (List Char) :=
  match cs.dropWhile (· ≠ '%') with
  | [] => some cs
  | _ :: zone => if zone.isEmpty || zone.contains '%' then none else some (cs.takeWhile (· ≠ '%'))

/-- The groups of an address of version 6, with two for an address of version 4 at the end. -/
def groups? (cs : List Char) : Option (List (List Char)) :=
  let parts := splitAt ':' cs
  match parts.getLast? with
  | none => none
  | some last =>
    if parts.length < 3 then none
    else if last.contains '.' then
      -- Its value does not matter any more; two groups take its room.
      if isVersion4 last then some (parts.dropLast ++ [['0'], ['0']]) else none
    else some parts

/-- Whether groups are eight, or fewer with one gap between two colons. -/
def fitGroups (parts : List (List Char)) : Bool :=
  let inner := (parts.drop 1).dropLast
  match inner.findIdx? List.isEmpty with
  | none => parts.length == 8 && parts.all isGroup
  | some i =>
    let front := parts.take (i + 1)
    let back := parts.drop (i + 2)
    -- A gap at an end of the address leaves an empty group beside it.
    let front := if front == [[]] then [] else front
    let back := if back == [[]] then [] else back
    parts.length ≤ 9 && inner.countP List.isEmpty == 1 && front.all isGroup &&
      back.all isGroup && front.length + back.length ≤ 7

/-- Whether a text is an address of version 6, perhaps with a zone. -/
def isVersion6 (cs : List Char) : Bool :=
  !cs.contains '/' && ((dropZone? cs).bind groups?).any fitGroups

/-- The characters of an ASCII name that are no blank and do not divide an address. -/
def isNameChar (c : Char) : Bool :=
  Percent.isUnreserved c || "!$&'()*+,;=\"`\x7b\x7d%|\\".toList.contains c

/-- The full stops at which names are divided. -/
def isStop (c : Char) : Bool :=
  c == '.' || c == '\u3002' || c == '\uff0e' || c == '\uff61'

/-- The ASCII form of a name. A full stop at the end is kept. -/
def name? (cs : List Char) : Option (List Char) :=
  let labels := splitAt '.' (cs.map fun c => if isStop c then '.' else c)
  let rooted := labels.getLast? == some []
  let labels := if rooted then labels.dropLast else labels
  match labels.mapM Label.encode? with
  | none => none
  | some written =>
    let text := (written.intersperse ['.']).flatten ++ (if rooted then ['.'] else [])
    if labels.isEmpty || (if rooted then 254 else 253) < text.length then none else some text

/-- Whether a character may stand in the name of a host as it is. -/
def isPlainNameChar (c : Char) : Bool :=
  Percent.isUnreserved c || "!$&'()*+,;=%".toList.contains c

/-- Whether a text is a number up to the largest port. -/
def isPort (cs : List Char) : Bool :=
  !cs.isEmpty && cs.length ≤ 5 && cs.all isAsciiDigit && natOfDigits cs ≤ 65535

/-- Whether a text is a host, perhaps with a port: a name in ASCII or an address of version 6 in
brackets. -/
def isAuthority (s : String) : Bool :=
  match s.toList with
  | '[' :: rest =>
    let behind := (rest.dropWhile (· ≠ ']')).drop 1
    rest.contains ']' && isVersion6 (rest.takeWhile (· ≠ ']')) &&
      (behind.isEmpty || behind.head? == some ':' && isPort (behind.drop 1))
  | cs =>
    let name := cs.takeWhile (· ≠ ':')
    let behind := cs.drop name.length
    !name.isEmpty && name.all isPlainNameChar && (behind.isEmpty || isPort (behind.drop 1))

/-- The form of a host in an address. Brackets around an address of version 6 are dropped. -/
def encode (host : String) : Except HostFault String :=
  let cs := host.toList
  if cs.isEmpty then .ok ""
  else if looksNumeric cs then
    if isVersion4 cs then .ok host else .error (.version4 host)
  else if cs.head? = some '[' ∧ cs.getLast? = some ']' ∧ 2 ≤ cs.length then
    let inner := (cs.drop 1).dropLast
    if isVersion6 inner then .ok (String.ofList inner) else .error (.version6 host)
  else
    let cs := (lower host).toList
    if host.toList.all (·.toNat < 0x80) then .ok (String.ofList (Percent.encode isNameChar cs))
    else match name? cs with
      | some name => .ok (String.ofList name)
      | none => .error (.name host)

end Host

end DesignBridge
