import DiscordRest.Url.Basic

/-!
Addresses: URLs that a request can be for, by their written form. A URL with two slashes behind its
scheme must name a machine there, and only some signs may follow. Without the slashes all of it is
taken for the name of a machine, maybe with a user before it and a port number behind it.
-/

namespace DiscordRest.Http.Address

/-- The greatest length of an address. -/
def lengthLimit : Nat := 65534

/-- The greatest length of the scheme of an address. -/
def schemeLimit : Nat := 64

/-! ### Names of machines -/

/-- Whether a character is one of those that name a machine, and has no meaning of its own there. -/
def isNameChar (c : Char) : Bool :=
  c.isAlphanum || ['!', '$', '&', '\x27', '(', ')', '*', '+', ',', '-', '.', ';', '=', '_',
    '~'].contains c

/-- What was read so far of the name of a machine with its user and port number. -/
structure Scan where
  /-- How many colons there were since the last user or bracket. -/
  colons : Nat
  /-- Whether there was a percent sign since then. -/
  percent : Bool
  /-- Whether there was an opening bracket. -/
  opened : Bool
  /-- Whether there was a closing bracket. -/
  closed : Bool
  /-- Whether nothing follows the user yet. -/
  bare : Bool

namespace Scan

/-- Nothing was read yet. -/
def start : Scan :=
  ⟨0, false, false, false, false⟩

/-- One character more; none if it cannot stand there. A number in brackets has seven colons. -/
def read (scan : Scan) (c : Char) : Option Scan :=
  let scan := { scan with bare := false }
  match c with
  | ':' => if scan.colons < 8 then some { scan with colons := scan.colons + 1 } else none
  | '%' => some { scan with percent := true }
  | '[' => if scan.percent || scan.opened then none else some { scan with opened := true }
  | ']' =>
    if !scan.opened || scan.closed then none
    else some { scan with colons := 0, percent := false, closed := true }
  | '@' => some { scan with colons := 0, percent := false, bare := true }
  | c => if isNameChar c then some scan else none

/-- Whether a machine is named: at most the port number follows a colon, and no escape is left. -/
def isWhole (scan : Scan) : Bool :=
  scan.colons ≤ 1 && !scan.percent && scan.opened == scan.closed && !scan.bare

end Scan

/-- Whether a text names a machine, maybe with a user and a port number. -/
def isMachine (text : List Char) : Bool :=
  match text.foldlM Scan.read Scan.start with
  | some scan => !text.isEmpty && scan.isWhole
  | none => false

/-- Whether a character ends the name of a machine. -/
def isEnd (c : Char) : Bool :=
  ['/', '?', '#'].contains c

/-! ### What follows -/

/-- Whether a character may stand in a path. -/
def isPathChar (c : Char) : Bool :=
  0x21 ≤ c.toNat && !(['#', '<', '>', '?', '\x60'].contains c)

/-- Whether a character may stand in a query. -/
def isQueryChar (c : Char) : Bool :=
  0x21 ≤ c.toNat && !(['\x22', '#', '<', '>'].contains c)

/-- Whether a text can follow the name of a machine; a fragment may hold anything. -/
def isRest (text : List Char) : Bool :=
  let text := text.takeWhile (· != '#')
  (text.takeWhile (· != '?')).all isPathChar && (text.dropWhile (· != '?')).tail.all isQueryChar

/-! ### Addresses -/

/-- Whether a URL is written as an address. -/
def isWellFormed (url : Url) : Bool :=
  let written := url.chars
  let machine :=
    match written.drop (url.scheme.length + 1) with
    | '/' :: '/' :: rest =>
      let name := rest.takeWhile (!isEnd ·)
      url.scheme.length ≤ schemeLimit && isMachine name && isRest (rest.drop name.length)
    | _ => !written.any isEnd && isMachine written
  written.length ≤ lengthLimit && machine

end DiscordRest.Http.Address
