import UiReplay.Number.Reading
import UiReplay.Text.Blank
import UiReplay.Text.Parts

/-!
# Addresses

An address starts with `http` or `https` in either case, a colon and any number of
slashes.  Then comes a host, perhaps after a user and before a socket number.  Then
comes a path, and after a question mark a query.  What stands after a hash mark is not
sent.  Tabs and line controls do not count anywhere, and controls and spaces not at the
two ends.

The path is taken apart at its slashes, which may be backslashes.  A part of one point
does not count, and a part of two points takes back the part before it.  A character
that must not stand in a path or in a query is written as its octets, each after a per
cent sign.

`Address.target?` is what a request for an address asks for.  `mem_resolve` says that no
part of one or two points is left in it, and `escape_of_allowed` says that a text of
allowed characters stays as it is.
-/

namespace UiReplay.Address

/-! ## Characters -/

/-- A slash of either kind. -/
def isSlash (c : Char) : Bool := c == '/' || c == '\\'

/-- The start of a query or of what is not sent. -/
def endsPath (c : Char) : Bool := c == '?' || c == '#'

/-- A character that does not count. -/
def isIgnored (c : Char) : Bool := c == '\t' || c == '\n' || c == '\r'

/-- A control or a space, which does not count at the ends. -/
def isEdge (c : Char) : Bool := c.toNat ≤ 0x20

/-- The characters that no host has. -/
def hostBreakers : List Char :=
  [' ', '#', '%', '/', ':', '<', '>', '?', '@', '[', '\\', ']', '^', '|', '\x7f']

/-- The marks that must not stand in a path. -/
def pathMarks : List Char := [' ', '"', '#', '<', '>', '?', '\x60', '\x7b', '\x7d']

/-- The marks that must not stand in a query. -/
def queryMarks : List Char := [' ', '"', '#', '\x27', '<', '>']

/-- Whether a character may stand in a text where some marks must not. -/
def isAllowed (marks : List Char) (c : Char) : Bool :=
  0x20 ≤ c.toNat && c.toNat < 0x7f && !marks.contains c

/-- A hexadecimal digit in upper case. -/
def hexDigit (n : Nat) : Char := (Nat.digitChar n).toUpper

/-- An octet after a per cent sign. -/
def octet (b : UInt8) : List Char := ['%', hexDigit (b.toNat / 16), hexDigit (b.toNat % 16)]

/-- A text with the characters that are not allowed written as octets. -/
def escape (marks : List Char) (cs : List Char) : List Char :=
  cs.flatMap fun c => if isAllowed marks c then [c] else (String.utf8EncodeChar c).flatMap octet

theorem escape_of_allowed {marks cs : List Char} (h : ∀ c ∈ cs, isAllowed marks c = true) :
    escape marks cs = cs := by
  induction cs with
  | nil => rfl
  | cons c cs ih =>
      rw [escape, List.flatMap_cons, if_pos (h c (List.mem_cons_self ..))]
      exact congrArg (c :: ·) (ih fun d hd => h d (List.mem_cons_of_mem _ hd))

/-! ## Paths -/

/-- A part of a path that stands for the place itself. -/
def isHere (part : List Char) : Bool :=
  [".", "%2e"].contains (String.ofList (part.map Char.toLower))

/-- A part of a path that stands for the place above. -/
def isAbove (part : List Char) : Bool :=
  ["..", ".%2e", "%2e.", "%2e%2e"].contains (String.ofList (part.map Char.toLower))

/-- Goes on by one part, the last part coming first. -/
def enter (place : List (List Char)) (part : List Char) : List (List Char) :=
  if isAbove part then place.tail else if isHere part then place else part :: place

/-- The parts of a path without those of one or two points. -/
def resolve (parts : List (List Char)) : List (List Char) :=
  let place := parts.foldl enter []
  (if parts.getLast?.any (fun p => isAbove p || isHere p) then [] :: place else place).reverse

theorem mem_foldl_enter {parts place : List (List Char)} {part : List Char}
    (h : part ∈ parts.foldl enter place) :
    part ∈ place ∨ (isAbove part = false ∧ isHere part = false) := by
  induction parts generalizing place with
  | nil => exact Or.inl h
  | cons p rest ih =>
      rcases ih h with hm | hp
      · unfold enter at hm
        split at hm
        · exact Or.inl (List.mem_of_mem_tail hm)
        · rename_i habove
          split at hm
          · exact Or.inl hm
          · rename_i hhere
            rcases List.mem_cons.mp hm with rfl | hm
            · exact Or.inr ⟨Bool.eq_false_iff.mpr habove, Bool.eq_false_iff.mpr hhere⟩
            · exact Or.inl hm
      · exact Or.inr hp

/-- No part of one or two points is left. -/
theorem mem_resolve {parts : List (List Char)} {part : List Char} (h : part ∈ resolve parts) :
    isAbove part = false ∧ isHere part = false := by
  have entered (h : part ∈ parts.foldl enter []) : isAbove part = false ∧ isHere part = false :=
    (mem_foldl_enter h).resolve_left (List.not_mem_nil)
  unfold resolve at h
  rw [List.mem_reverse] at h
  split at h
  · rcases List.mem_cons.mp h with rfl | h
    · decide +kernel
    · exact entered h
  · exact entered h

/-- The path of what follows a host. -/
def path (tail : List Char) : List Char :=
  let written := (tail.takeWhile fun c => !endsPath c).map fun c => if isSlash c then '/' else c
  (resolve (Text.splitOn '/' (Text.dropStart ['/'] written))).flatMap fun part =>
    '/' :: escape pathMarks part

/-- The query of what follows a host, with its question mark. -/
def query (tail : List Char) : List Char :=
  match tail.dropWhile fun c => !endsPath c with
  | '?' :: rest => '?' :: escape queryMarks (rest.takeWhile (· != '#'))
  | _ => []

/-! ## Hosts -/

/-- The host at the start of a text.  One in brackets may have colons. -/
def hostOf (cs : List Char) : List Char :=
  if cs.head? = some '[' then cs.takeWhile (· != ']') ++ [']'] else cs.takeWhile (· != ':')

/-- Whether a text names a host. -/
def isHost (cs : List Char) : Bool :=
  if cs.head? = some '[' then true
  else !cs.isEmpty && cs.all fun c => !isEdge c && !hostBreakers.contains c

/-- Whether a text is a socket number after a colon, or empty. -/
def isSocket : List Char → Bool
  | [] | [':'] => true
  | ':' :: cs => (Number.readDigits? cs).any (· < 65536)
  | _ => false

/-- Whether a text names a host, perhaps after a user and before a socket number. -/
def isAuthority (cs : List Char) : Bool :=
  let place := Text.afterLast '@' cs
  let host := hostOf place
  isHost host && isSocket (place.drop host.length)

/-! ## Addresses -/

/-- The ways in which the device is reached, with their colon. -/
def schemes : List String := ["http:", "https:"]

/-- What follows the scheme of a text and its slashes, none when it has another one. -/
def afterScheme? (cs : List Char) : Option (List Char) :=
  let isStart (scheme : String) : Bool :=
    scheme.toList.isPrefixOf ((cs.take scheme.length).map Char.toLower)
  (schemes.find? isStart).map fun scheme => (cs.drop scheme.length).dropWhile isSlash

/-- What a request for an address asks for: its path and its query. -/
def target? (address : String) : Option String :=
  (afterScheme? ((Text.trimBy isEdge address.toList).filter fun c => !isIgnored c)).bind fun rest =>
    let isEnd (c : Char) : Bool := isSlash c || endsPath c
    let tail := rest.dropWhile fun c => !isEnd c
    if isAuthority (rest.takeWhile fun c => !isEnd c) then
      some (String.ofList (path tail ++ query tail))
    else none

/-! ## Tests -/

example : ["http://h:1/base/ping", "HTTPS:h", " http://u@[::1]:8/a?b#c", "http://h?x y"].map target?
    = [some "/base/ping", some "/", some "/a?b", some "/?x%20y"] := by decide +kernel
example : ["ftp://h/x", "not a url/ping", "http://", "http://h:x/", "http://h:65536/"].map target?
    = [none, none, none, none, none] := by decide +kernel
example : ["http://h/a/./b/../c", "http://h/../a/%2E", "http://h//a\\b", "http://h/é"].map target?
    = [some "/a/c", some "/a/", some "//a/b", some "/%C3%A9"] := by decide +kernel

end UiReplay.Address
