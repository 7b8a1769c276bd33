import Mathlib.Data.List.TakeWhile
import DiscordRest.Proofs.Url.Host
import DiscordRest.Proofs.Url.Percent
import DiscordRest.Url.Reader

/-!
The part of a plain web address between scheme and path, as it is written: user, password, host
and port number are read as what they were.
-/

namespace DiscordRest.Url

/-- The scheme of plain connections. -/
def httpScheme : List Char := "http".toList

theorem defaultPort?_httpScheme : defaultPort? httpScheme = some 80 := by
  decide

theorem isSpecial_httpScheme : isSpecial httpScheme = true := by
  decide

------------------------------------------------------------------------------------------
-- Reading an address
------------------------------------------------------------------------------------------

/-- What is read of a host and a port number behind a user. -/
def readAddress (user address : List Char) : Except Fault (Authority × List Char) :=
  let (username, password) := cut ':' user
  let (hostText, after) := cutHost false address
  if hostText.isEmpty then .error .emptyHost
  else
    match Host.readDomain hostText with
    | .error fault => .error fault
    | .ok host =>
      match if after.isEmpty then .ok (none, []) else readPort none after.tail with
      | .error fault => .error fault
      | .ok (number, rest) =>
        .ok (⟨percentEncode escapesUser username, percentEncode escapesUser (password.getD []), host,
          if number = some 80 then none else number⟩, rest)

/--
The authority of a plain web address is its user, if it has one, and its address. The checks that
the host is present are idle, for none is read that is not.
-/
theorem readAuthority_httpScheme (text : List Char) (followed : Bool)
    : readAuthority httpScheme text followed
      = readAddress ((cutUser? text).getD ([], text)).1 ((cutUser? text).getD ([], text)).2 := by
  have tail : ∀ user address : List Char,
      (do
        if (cutHost false address).1.isEmpty then .error .emptyHost
        let host ← Host.readDomain (cutHost false address).1
        if !host.isPresent && (cutHost false address).2.head? = some ':' then .error .emptyHost
        let port ← if (cutHost false address).2.isEmpty then pure (none, [])
          else readPort none (cutHost false address).2.tail
        let username := percentEncode escapesUser (cut ':' user).1
        let password := percentEncode escapesUser ((cut ':' user).2.getD [])
        if !host.isPresent && !(username.isEmpty && password.isEmpty) then .error .emptyHost
        let number := if port.1 = defaultPort? httpScheme then none else port.1
        .ok (⟨username, password, host, number⟩, port.2))
      = readAddress user address := by
    intro user address
    simp only [readAddress, bind, Except.bind, pure, Except.pure, defaultPort?_httpScheme]
    cases read : Host.readDomain (cutHost false address).1 with
    | error fault => rfl
    | ok host =>
        have present := (Host.isCanonical_of_readDomain read).isPresent
        simp only [present, Bool.not_true, Bool.false_and, Bool.false_eq_true, if_false]
        cases (cutHost false address).2.isEmpty with
        | true => simp
        | false =>
            simp only [Bool.false_eq_true, if_false]
            cases readPort none (cutHost false address).2.tail <;> rfl
  unfold readAuthority
  rcases cutUser? text with _ | ⟨_ | ⟨c, user⟩, address⟩
  · exact tail [] text
  · cases none_there : address.isEmpty && followed with
    | true =>
        obtain rfl := List.isEmpty_iff.mp (Bool.and_eq_true_iff.mp none_there).1
        simp only [none_there, if_true]
        rfl
    | false =>
        simp only [none_there, Bool.false_eq_true, if_false]
        exact tail [] address
  · exact tail (c :: user) address

------------------------------------------------------------------------------------------
-- Cutting
------------------------------------------------------------------------------------------

/-- A text without the separator is cut behind its end. -/
theorem cut_append {separator : Char} {front : List Char} (free : separator ∉ front)
    (rest : List Char)
    : cut separator (front ++ rest) = (front ++ (cut separator rest).1, (cut separator rest).2) := by
  induction front with
  | nil => rfl
  | cons c front ih =>
      have first : c ≠ separator := fun same => free (same ▸ List.mem_cons_self)
      have later := ih fun member => free (List.mem_cons_of_mem c member)
      rw [List.cons_append, cut, if_neg first, later]
      rfl

/-- The user ends at the last at sign. -/
theorem cutUser?_append {address : List Char} (free : '@' ∉ address) (user : List Char)
    : cutUser? (user ++ '@' :: address) = some (user, address) := by
  have after : ((user ++ '@' :: address).reverse.takeWhile (· != '@')).reverse = address := by
    have plain : ∀ c ∈ address.reverse, (c != '@') = true := by
      intro c member
      exact bne_iff_ne.mpr fun same => free (same ▸ List.mem_reverse.mp member)
    rw [List.reverse_append, List.reverse_cons, List.append_assoc,
      List.takeWhile_append_of_pos plain]
    simp
  have counted : (user ++ '@' :: address).length - address.length - 1 = user.length := by
    rw [List.length_append, List.length_cons]
    omega
  have longer : ¬address.length = (user ++ '@' :: address).length := by
    rw [List.length_append, List.length_cons]
    omega
  simp only [cutUser?, after, if_neg longer, counted, List.take_left]

/-- Without an at sign there is no user. -/
theorem cutUser?_of_not_mem {address : List Char} (free : '@' ∉ address)
    : cutUser? address = none := by
  have plain : ∀ c ∈ address.reverse, (c != '@') = true := by
    intro c member
    exact bne_iff_ne.mpr fun same => free (same ▸ List.mem_reverse.mp member)
  have whole : address.reverse.takeWhile (· != '@') = address.reverse :=
    List.takeWhile_eq_self_iff.mpr plain
  simp only [cutUser?, whole, List.reverse_reverse, if_true]

/-- A host goes on over characters that neither end it nor have to do with brackets. -/
theorem cutHost_append {inBrackets : Bool} {text : List Char}
    (plain : ∀ c ∈ text, c ≠ '[' ∧ c ≠ ']' ∧ (c = ':' → inBrackets = true)) (rest : List Char)
    : cutHost inBrackets (text ++ rest)
      = (text ++ (cutHost inBrackets rest).1, (cutHost inBrackets rest).2) := by
  induction text with
  | nil => rfl
  | cons c text ih =>
      obtain ⟨noOpening, noClosing, colon⟩ := plain c List.mem_cons_self
      have later := ih fun d member => plain d (List.mem_cons_of_mem c member)
      have goesOn : ¬(c == ':' && !inBrackets) = true := by
        simp only [Bool.and_eq_true, beq_iff_eq, Bool.not_eq_true', not_and, Bool.not_eq_false]
        exact colon
      rw [List.cons_append, cutHost, if_neg goesOn]
      simp only [beq_eq_false_iff_ne.mpr noOpening, beq_eq_false_iff_ne.mpr noClosing, later,
        Bool.false_eq_true, if_false]
      rfl

/-- A canonical host goes up to the port number or the end. -/
theorem cutHost_text_append {host : Host} (canonical : host.IsCanonical) {rest : List Char}
    (ends : cutHost false rest = ([], rest))
    : cutHost false (host.text ++ rest) = (host.text, rest) := by
  have named : ∀ {text : List Char}, (∀ c ∈ text, Host.isNameChar c = true)
      → cutHost false (text ++ rest) = (text, rest) := by
    intro text plain
    rw [cutHost_append, ends, List.append_nil]
    intro c member
    obtain ⟨_, noOpening, noClosing, noColon, _⟩ := Host.ne_of_isNameChar (plain c member)
    exact ⟨noOpening, noClosing, fun colon => absurd colon noColon⟩
  cases host with
  | name given => exact named canonical.2.1
  | ipv4 address => exact named fun c member => Host.isNameChar_of_mem_ipv4Text member
  | ipv6 pieces =>
      have opened : cutHost false ('[' :: (Host.ipv6Text pieces ++ ']' :: rest))
          = ('[' :: (cutHost true (Host.ipv6Text pieces ++ ']' :: rest)).1,
              (cutHost true (Host.ipv6Text pieces ++ ']' :: rest)).2) :=
        rfl
      have closed : cutHost true (']' :: rest)
          = (']' :: (cutHost false rest).1, (cutHost false rest).2) :=
        rfl
      have inside : cutHost true (Host.ipv6Text pieces ++ ']' :: rest)
          = (Host.ipv6Text pieces ++ [']'], rest) := by
        rw [cutHost_append, closed, ends]
        intro c member
        rcases Host.mem_ipv6Text member with rfl | digit
        · decide
        · have other := Host.ne_of_isHexDigit digit
          exact ⟨other.1, other.2.1, fun _ => rfl⟩
      have whole : (Host.ipv6 pieces).text ++ rest
          = '[' :: (Host.ipv6Text pieces ++ ']' :: rest) := by
        simp [Host.text]
      rw [whole, opened, inside]
      simp [Host.text]

------------------------------------------------------------------------------------------
-- Port numbers
------------------------------------------------------------------------------------------

/-- Reading further digits makes a number no smaller. -/
theorem le_of_readDigitsFrom {value number : Nat} {text : List Char}
    (read : Text.readDigitsFrom 10 value text = some number)
    : value ≤ number := by
  induction text generalizing value with
  | nil => exact Nat.le_of_eq (Option.some.inj read)
  | cons c rest ih =>
      rw [Text.readDigitsFrom] at read
      split at read
      · have later := ih read
        omega
      · contradiction

/-- A digit of base ten is a decimal digit, with its place among them as its value. -/
theorem isDigit_of_digitOf? {c : Char} {digit : Nat} (read : Text.digitOf? 10 c = some digit)
    : Text.isDigit c = true ∧ digit = c.toNat - 48 := by
  unfold Text.digitOf? at read
  split at read
  · rename_i value found
    split at read
    · rename_i below
      obtain rfl := Option.some.inj read
      unfold Text.digitValue? at found
      split at found
      · rename_i inside
        exact ⟨inside, (Option.some.inj found).symm⟩
      split at found
      · rename_i inside
        have low : 'a'.toNat ≤ c.toNat := (Bool.and_eq_true_iff.mp inside).1 |> of_decide_eq_true
        have letter : 'a'.toNat = 97 := rfl
        have same := Option.some.inj found
        omega
      split at found
      · rename_i inside
        have low : 'A'.toNat ≤ c.toNat := (Bool.and_eq_true_iff.mp inside).1 |> of_decide_eq_true
        have letter : 'A'.toNat = 65 := rfl
        have same := Option.some.inj found
        omega
      · contradiction
    · contradiction
  · contradiction

/-- A numeral of a number that is not too large is read as a port number. -/
theorem readPort_some {value number : Nat} {text : List Char}
    (read : Text.readDigitsFrom 10 value text = some number) (bounded : number ≤ 65535)
    : readPort (some value) text = .ok (some number, []) := by
  induction text generalizing value with
  | nil =>
      rw [← Option.some.inj read]
      rfl
  | cons c rest ih =>
      rw [Text.readDigitsFrom] at read
      split at read
      · rename_i digit found
        obtain ⟨decimal, rfl⟩ := isDigit_of_digitOf? found
        have upTo := le_of_readDigitsFrom read
        have fits : ¬65535 < value * 10 + (c.toNat - 48) := by omega
        rw [readPort, if_pos decimal]
        simp only [Option.getD_some, if_neg fits]
        exact ih read
      · contradiction

theorem readPort_toDigits {number : Nat} (bounded : number ≤ 65535)
    : readPort none (Nat.toDigits 10 number) = .ok (some number, []) := by
  have read : Text.readDigitsFrom 10 0 (Nat.toDigits 10 number) = some number :=
    Text.readDigitsFrom_toDigits (by decide) (by decide) number
  obtain ⟨c, rest, digits⟩ :=
    List.exists_cons_of_ne_nil (Nat.toDigits_ne_nil (b := 10) (n := number))
  have decimal : Text.isDigit c = true :=
    Text.isDigit_of_mem_toDigits (n := number) (digits ▸ List.mem_cons_self)
  rw [digits] at read ⊢
  have first := readPort_some read bounded
  rw [readPort, if_pos decimal] at first ⊢
  exact first

theorem le_of_readPort {value : Option Nat} {text rest : List Char} {number : Nat}
    (before : ∀ n ∈ value, n ≤ 65535) (read : readPort value text = .ok (some number, rest))
    : number ≤ 65535 := by
  induction text generalizing value with
  | nil =>
      obtain ⟨rfl, _⟩ := Prod.mk.inj (Except.ok.inj read)
      exact before number rfl
  | cons c text ih =>
      rw [readPort] at read
      dsimp only at read
      split at read
      · split at read
        · contradiction
        · rename_i fits
          refine ih ?_ read
          intro n same
          obtain rfl := Option.some.inj same
          omega
      · split at read
        · obtain ⟨rfl, _⟩ := Prod.mk.inj (Except.ok.inj read)
          exact before number rfl
        · contradiction

------------------------------------------------------------------------------------------
-- Authorities as they are written
------------------------------------------------------------------------------------------

/-- An authority as reading a plain web address gives it. -/
structure Authority.IsCanonical (authority : Authority) : Prop where
  username : ∀ c ∈ authority.username, escapesUser c = false
  password : ∀ c ∈ authority.password, escapesUser c = false
  host : authority.host.IsCanonical
  portNumber : ∀ n ∈ authority.portNumber, n ≤ 65535 ∧ n ≠ 80

theorem isCanonical_of_readAddress {user address rest : List Char} {authority : Authority}
    (read : readAddress user address = .ok (authority, rest))
    : authority.IsCanonical := by
  unfold readAddress at read
  dsimp only at read
  split at read
  · contradiction
  split at read
  · contradiction
  · rename_i host hostRead
    split at read
    · contradiction
    · rename_i number after portRead
      obtain ⟨rfl, _⟩ := Prod.mk.inj (Except.ok.inj read)
      exact {
        username := fun c member => escapes_of_mem_percentEncode sparesMarks_escapesUser member
        password := fun c member => escapes_of_mem_percentEncode sparesMarks_escapesUser member
        host := Host.isCanonical_of_readDomain hostRead
        portNumber := by
          intro n same
          dsimp only at same
          split at same
          · cases same
          · rename_i other
            obtain rfl : number = some n := same
            refine ⟨?_, fun default => other (congrArg some default)⟩
            split at portRead
            · cases portRead
            · exact le_of_readPort (by simp) portRead
      }

/-- The authority of a URL with a host. -/
def authorityWith (url : Url) (host : Host) : Authority :=
  ⟨url.username, url.password, host, url.portNumber⟩

/-- What a user name or a password does not hold. -/
theorem ne_of_escapesUser {c : Char} (plain : escapesUser c = false)
    : c ≠ ':' ∧ c ≠ '@' ∧ c ≠ '/' ∧ c ≠ '\\' ∧ c ≠ '?' ∧ c ≠ '#' ∧ 0x20 < c.toNat := by
  refine ⟨?_, ?_, ?_, ?_, ?_, ?_, ?_⟩
  case refine_7 =>
    refine Nat.lt_of_not_le fun low => ?_
    have all : ∀ c : Char, c.toNat < 0x21 → escapesUser c = true :=
      Text.forall_toNat_lt (by decide +kernel)
    rw [all c (Nat.lt_succ_of_le low)] at plain
    cases plain
  all_goals
    rintro rfl
    exact absurd plain (by decide)

/-- A digit of a port number ends no part of a URL before it. -/
theorem ne_of_isDigit {c : Char} (digit : Text.isDigit c = true)
    : c ≠ '@' ∧ c ≠ '/' ∧ c ≠ '\\' ∧ c ≠ '?' ∧ c ≠ '#' ∧ 0x20 < c.toNat := by
  have low : '0'.toNat ≤ c.toNat := (Bool.and_eq_true_iff.mp digit).1 |> of_decide_eq_true
  refine ⟨?_, ?_, ?_, ?_, ?_, Nat.lt_of_lt_of_le (by decide) low⟩
  all_goals
    rintro rfl
    exact absurd digit (by decide)

theorem ne_of_mem_portText {url : Url} {c : Char} (member : c ∈ url.portText)
    : c ≠ '@' ∧ c ≠ '/' ∧ c ≠ '\\' ∧ c ≠ '?' ∧ c ≠ '#' ∧ 0x20 < c.toNat := by
  unfold portText at member
  split at member
  · contradiction
  · rename_i n _
    rw [Text.decimal, String.toList_ofList] at member
    rcases List.mem_cons.mp member with rfl | digit
    · decide
    · exact ne_of_isDigit (Text.isDigit_of_mem_toDigits digit)

/-- The text of a user name and a password, without the at sign behind it. -/
def userPart (url : Url) : List Char :=
  url.username ++ if url.password.isEmpty then [] else ':' :: url.password

/-- A URL has no user, or its user stands before an at sign. -/
theorem userText_cases (url : Url)
    : (url.username = [] ∧ url.password = [] ∧ url.userText = [])
      ∨ (url.userPart ≠ [] ∧ url.userText = url.userPart ++ ['@']) := by
  unfold userText userPart
  cases name : url.username with
  | cons c rest => exact Or.inr ⟨by simp, by simp⟩
  | nil =>
      cases password : url.password with
      | nil => exact Or.inl ⟨rfl, rfl, rfl⟩
      | cons c rest => exact Or.inr ⟨by simp, by simp⟩

/-- The user name and the password are found in their text. -/
theorem cut_userPart {url : Url} {host : Host}
    (canonical : (url.authorityWith host).IsCanonical)
    : percentEncode escapesUser (cut ':' url.userPart).1 = url.username
      ∧ percentEncode escapesUser ((cut ':' url.userPart).2.getD []) = url.password := by
  have free : ':' ∉ url.username :=
    fun member => (ne_of_escapesUser (canonical.username ':' member)).1 rfl
  have name : percentEncode escapesUser url.username = url.username :=
    percentEncode_of_plain canonical.username
  have password : percentEncode escapesUser url.password = url.password :=
    percentEncode_of_plain canonical.password
  rw [userPart, cut_append free]
  cases given : url.password with
  | nil =>
      refine ⟨?_, rfl⟩
      rw [List.isEmpty_nil, if_pos rfl, cut, List.append_nil, name]
  | cons c rest =>
      rw [given] at password
      simp [cut, name, password]

/-- The text of an authority holds nothing that ends it. -/
theorem ne_of_mem_authority {url : Url} {host : Host}
    (canonical : (url.authorityWith host).IsCanonical) {c : Char}
    (member : c ∈ url.userText ++ host.text ++ url.portText)
    : c ≠ '/' ∧ c ≠ '\\' ∧ c ≠ '?' ∧ c ≠ '#' ∧ 0x20 < c.toNat := by
  rcases List.mem_append.mp member with before | port
  · rcases List.mem_append.mp before with user | inHost
    · have marks : c = ':' ∨ c = '@' ∨ c ∈ url.username ∨ c ∈ url.password := by
        rcases url.userText_cases with ⟨_, _, empty⟩ | ⟨_, filled⟩
        · rw [empty] at user
          contradiction
        · rw [filled, userPart] at user
          split at user <;> simp at user <;> grind
      rcases marks with rfl | rfl | name | password
      · decide
      · decide
      · exact (ne_of_escapesUser (canonical.username c name)).2.2
      · exact (ne_of_escapesUser (canonical.password c password)).2.2
    · exact (canonical.host.ne_of_mem_text inHost).2
  · exact (ne_of_mem_portText port).2

/-- A canonical authority is read from its user and the texts of its host and port number. -/
theorem readAddress_text {url : Url} {host : Host}
    (canonical : (url.authorityWith host).IsCanonical) {user : List Char}
    (name : percentEncode escapesUser (cut ':' user).1 = url.username)
    (password : percentEncode escapesUser ((cut ':' user).2.getD []) = url.password)
    : readAddress user (host.text ++ url.portText) = .ok (url.authorityWith host, []) := by
  have ends : cutHost false url.portText = ([], url.portText) := by
    unfold portText
    split <;> rfl
  have cutOff := cutHost_text_append (show host.IsCanonical from canonical.host) ends
  have read : Host.readDomain host.text = .ok host := canonical.host.readDomain_text
  have nonempty : host.text.isEmpty = false := by
    refine Bool.eq_false_iff.mpr fun empty => ?_
    rw [List.isEmpty_iff.mp empty] at read
    contradiction
  simp only [readAddress, cutOff, nonempty, read, name, password, Bool.false_eq_true, if_false]
  cases port : url.portNumber with
  | none =>
      have written : url.portText = [] := by rw [portText, port]
      simp [written, port, authorityWith]
  | some n =>
      -- The default is never kept, so dropping it when reading changes nothing.
      obtain ⟨bounded, notDefault⟩ := canonical.portNumber n port
      have written : url.portText = ':' :: Nat.toDigits 10 n := by
        rw [portText, port]
        exact congrArg (':' :: ·) String.toList_ofList
      simp [written, port, authorityWith, readPort_toDigits bounded, notDefault]

/-- A canonical authority is read from its text, with nothing left for the path. -/
theorem readAuthority_text {url : Url} {host : Host}
    (canonical : (url.authorityWith host).IsCanonical) (followed : Bool)
    : readAuthority httpScheme (url.userText ++ host.text ++ url.portText) followed
      = .ok (url.authorityWith host, []) := by
  have free : '@' ∉ host.text ++ url.portText := by
    intro member
    rcases List.mem_append.mp member with inHost | port
    · exact (canonical.host.ne_of_mem_text inHost).1 rfl
    · exact (ne_of_mem_portText port).1 rfl
  rw [readAuthority_httpScheme, List.append_assoc]
  -- With a user the last at sign is the one behind it; without one there is none at all.
  rcases url.userText_cases with ⟨name, password, empty⟩ | ⟨_, filled⟩
  · rw [empty, List.nil_append, cutUser?_of_not_mem free]
    exact readAddress_text canonical name.symm password.symm
  · obtain ⟨name, password⟩ := cut_userPart canonical
    rw [filled, List.append_assoc, List.singleton_append, cutUser?_append free]
    exact readAddress_text canonical name password

end DiscordRest.Url
