import BlockPipeline.Json.Write
import BlockPipeline.Proofs.Json.Tokens

/-!
# The tokens of a written text

The indented form of a value is scanned into the tokens of the value. A text *spells* tokens if
these are scanned from it whatever follows a value in a document: nothing, a comma or a new line. A
number needs what follows, because nothing else ends it; all other values end by themselves.

What the scanner makes of a written fraction rests on the digits that are written for it, so a
fraction is asked to be read back (`Double.ReadsBack`). It does not have to be: reading rounds
twice.

| Statement | In words |
| --- | --- |
| `Scan.run_quote` | a quoted string is scanned into itself, whatever is in it |
| `Scan.spells_integer` | so is a written integer |
| `Scan.spells_double` | and a fraction, if it is read back |
| `Scan.spells_indented` | the indented form spells the tokens of the value |
-/

set_option autoImplicit false

namespace BlockPipeline

theorem WordInt.ofInt?_value (n : WordInt) : ofInt? n.value = some n := by
  unfold ofInt?
  rw [dif_pos n.inWord]

namespace Scan

/-! ## Running over a text -/

/-- The state behind a text, and the tokens that were finished in it. -/
def run (s : Scan) : List Char → Scan × List Token
  | [] => (s, [])
  | c :: text => (((s.step c).1.run text).1, (s.step c).2 ++ ((s.step c).1.run text).2)

/-- All tokens of a text. -/
def tokens (s : Scan) (text : List Char) : List Token := (s.run text).2 ++ (s.run text).1.finish

@[simp] theorem run_nil (s : Scan) : s.run [] = (s, []) := rfl

theorem run_cons (s : Scan) (c : Char) (text : List Char) :
    s.run (c :: text) =
      (((s.step c).1.run text).1, (s.step c).2 ++ ((s.step c).1.run text).2) := rfl

theorem run_append (s : Scan) (a b : List Char) :
    s.run (a ++ b) = (((s.run a).1.run b).1, (s.run a).2 ++ ((s.run a).1.run b).2) := by
  induction a generalizing s with
  | nil => rfl
  | cons c a ih => simp only [List.cons_append, run_cons, ih, List.append_assoc]

theorem tokens_append (s : Scan) (a b : List Char) :
    s.tokens (a ++ b) = (s.run a).2 ++ (s.run a).1.tokens b := by
  simp only [tokens, run_append, List.append_assoc]

theorem tokens_cons (s : Scan) (c : Char) (text : List Char) :
    s.tokens (c :: text) = (s.step c).2 ++ (s.step c).1.tokens text := by
  simp only [tokens, run_cons, List.append_assoc]

/-- Gathering the tokens from the back comes to the same. -/
theorem scan_eq_tokens (text : List Char) : Token.scan text = between.tokens text := by
  have gathered : ∀ (text : List Char) (s : Scan) (done : List Token),
      text.foldl (fun (state : Scan × List Token) (c : Char) =>
          ((state.1.step c).1, (state.1.step c).2.reverse ++ state.2)) (s, done) =
        ((s.run text).1, (s.run text).2.reverse ++ done) := by
    intro text
    induction text with
    | nil => exact fun _ _ => rfl
    | cons c text ih => simp [run_cons, ih]
  have whole := gathered text between []
  simp only [Token.scan, tokens]
  rw [whole, List.append_nil, List.reverse_reverse]

/-! ## What a text spells -/

/-- What follows a value in a document: nothing, a comma or a new line. -/
def Ends : List Char → Prop
  | [] => True
  | c :: _ => c = ',' ∨ c = '\n'

/-- These are the tokens of the text, whatever follows it. -/
def Spells (text : List Char) (out : List Token) : Prop :=
  ∀ rest, Ends rest → between.tokens (text ++ rest) = out ++ between.tokens rest

/-- A text that leaves nothing open spells its tokens. -/
theorem Spells.of_run {text : List Char} {out : List Token}
    (whole : between.run text = (between, out)) : Spells text out := by
  intro rest _
  rw [tokens_append, whole]

/-- Behind a text that leaves nothing open anything may follow. -/
theorem Spells.after {front text : List Char} {first out : List Token}
    (whole : between.run front = (between, first)) (spells : Spells text out) :
    Spells (front ++ text) (first ++ out) := by
  intro rest ends
  rw [List.append_assoc, tokens_append, whole, List.append_assoc, spells rest ends]

/-- Two texts of which the second begins as what follows a value. -/
theorem Spells.append {text behind : List Char} {out later : List Token}
    (spells : Spells text out) (starts : ∀ rest, Ends (behind ++ rest))
    (spellsToo : Spells behind later) : Spells (text ++ behind) (out ++ later) := by
  intro rest ends
  rw [List.append_assoc, List.append_assoc, spells _ (starts rest), spellsToo rest ends]

/-! ## Blanks -/

/-- A blank between two tokens leaves nothing behind. -/
theorem run_blank_cons {c : Char} (blank : isBlank c) (text : List Char) :
    between.run (c :: text) = between.run text := by
  have stays : between.step c = (between, []) := by
    simp only [step, start, blank, if_true]
  rw [run_cons, stays]
  rfl

theorem run_lineBreak (depth : Nat) :
    between.run (Json.lineBreak depth).toList = (between, []) := by
  have blanks : ∀ count, between.run (List.replicate count ' ') = (between, []) := by
    intro count
    induction count with
    | zero => rfl
    | succ count ih => rw [List.replicate_succ, run_blank_cons rfl, ih]
  rw [Json.lineBreak, String.toList_append]
  refine (run_blank_cons rfl _).trans ?_
  rw [String.toList_ofList]
  exact blanks _

/-! ## Strings -/

/-- A string that is open, with the characters so far. -/
def opened (chars : List Char) : Scan := .string { chars := chars }

/-- The escape of a control character is read back. -/
theorem hexNumber?_hexDigit : ∀ n < 0x20,
    Text.hexNumber? ['0', '0', hexDigit (n / 16), hexDigit (n % 16)] = some n ∧
      (String.ofList ['0', '0', hexDigit (n / 16)]).utf8ByteSize = 3 ∧
      (String.ofList ['0', '0', hexDigit (n / 16), hexDigit (n % 16)]).utf8ByteSize = 4 := by
  decide

/-- **The escape of a character is scanned into the character.** -/
theorem run_escapeChar (chars : List Char) (c : Char) :
    (opened chars).run (escapeChar c) = (opened (c :: chars), []) := by
  unfold escapeChar
  split
  next h => subst h; rfl
  split
  next h => subst h; rfl
  split
  next h => subst h; rfl
  split
  next h => subst h; rfl
  split
  next h => subst h; rfl
  split
  next h => subst h; rfl
  split
  next h => subst h; rfl
  split
  next low =>
    obtain ⟨value, three, four⟩ := hexNumber?_hexDigit c.toNat low
    have unit : ({ chars := chars } : Quoted).pushUnit c.toNat = { chars := c :: chars } := by
      have noTrail : ¬ (0xDC00 ≤ c.toNat ∧ c.toNat ≤ 0xDFFF) := by omega
      have noLead : ¬ (0xD800 ≤ c.toNat ∧ c.toNat ≤ 0xDBFF) := by omega
      simp only [Quoted.pushUnit, if_neg noTrail, Quoted.settle, if_neg noLead, Char.ofNat_toNat]
    have third : (Scan.unicode { chars := chars } ['0', '0']).step (hexDigit (c.toNat / 16)) =
        (.unicode { chars := chars } ['0', '0', hexDigit (c.toNat / 16)], []) :=
      if_pos (by rw [List.cons_append, List.cons_append, List.nil_append, three]; decide)
    have fourth : (Scan.unicode { chars := chars } ['0', '0', hexDigit (c.toNat / 16)]).step
        (hexDigit (c.toNat % 16)) = (opened (c :: chars), []) := by
      simp only [step, List.cons_append, List.nil_append, four, Nat.lt_irrefl, if_false, value,
        unit, opened]
    have front : (opened chars).run ['\\', 'u', '0', '0'] =
      (.unicode { chars := chars } ['0', '0'], []) := rfl
    have behind : (Scan.unicode { chars := chars } ['0', '0']).run
        [hexDigit (c.toNat / 16), hexDigit (c.toNat % 16)] = (opened (c :: chars), []) := by
      rw [run_cons, third, run_cons, fourth]
      rfl
    exact (run_append (opened chars) ['\\', 'u', '0', '0'] _).trans (by rw [front, behind]; rfl)
  next quote backslash _ _ _ _ _ printable =>
    simp [opened, run_cons, step, quote, backslash, printable, Quoted.push, Quoted.settle]

theorem run_escaped (text chars : List Char) :
    (opened chars).run (text.flatMap escapeChar) = (opened (text.reverse ++ chars), []) := by
  induction text generalizing chars with
  | nil => rfl
  | cons c text ih => simp [run_append, run_escapeChar, ih]

/-- **A quoted string is scanned into itself.** -/
theorem run_quote (s : String) : between.run (quote s).toList = (between, [.string (some s)]) := by
  have close : (opened s.toList.reverse).run ['"'] = (between, [.string (some s)]) := by
    simp [opened, run_cons, step, Quoted.finish, Quoted.settle]
  have body := run_append (opened []) (s.toList.flatMap escapeChar) ['"']
  rw [run_escaped, List.append_nil, close] at body
  simp only [quote, String.toList_append, String.toList_ofList, List.append_assoc]
  exact body

/-! ## Integers -/

/-- The values of digits. -/
def digitValues (digits : List Char) : List Nat := digits.map fun c => c.toNat - '0'.toNat

/-- Digits behind the first one are taken one by one. -/
theorem run_digits {digits : List Char} (each : ∀ c ∈ digits, c.isDigit) (negative : Bool)
    (before : List Nat) :
    (Scan.number negative (.whole before)).run digits =
      (.number negative (.whole ((digitValues digits).reverse ++ before)), []) := by
  induction digits generalizing before with
  | nil => rfl
  | cons c digits ih =>
    obtain ⟨first, others⟩ := List.forall_mem_cons.mp each
    have pushed : (Scan.number negative (.whole before)).step c =
        (.number negative (.whole ((c.toNat - '0'.toNat) :: before)), []) := by
      simp only [step, Digits.push?, Digits.digit?, first, if_true]
    rw [run_cons, pushed, ih others]
    simp [digitValues]

/-- A digit that is not zero begins a number. -/
theorem start_digitChar : ∀ {d : Nat}, 0 < d → d < 10 →
    start (Nat.digitChar d) = (.number false (.whole [d]), []) ∧
      (Scan.number true .sign).step (Nat.digitChar d) = (.number true (.whole [d]), [])
  | 1, _, _ | 2, _, _ | 3, _, _ | 4, _, _ | 5, _, _ | 6, _, _ | 7, _, _ | 8, _, _ | 9, _, _ =>
    ⟨rfl, rfl⟩
  | _ + 10, _, big => by omega

/-- A positive number is written without a zero in front. -/
theorem toDigits_eq_cons {n : Nat} (positive : 0 < n) :
    ∃ d digits, 0 < d ∧ d < 10 ∧ Nat.toDigits 10 n = Nat.digitChar d :: digits := by
  induction n using Nat.strongRecOn with
  | ind n ih =>
    by_cases small : n < 10
    · exact ⟨n, [], positive, small, Nat.toDigits_of_lt_base small⟩
    · obtain ⟨d, digits, hd, hd', front⟩ := ih (n / 10) (by omega) (by omega)
      refine ⟨d, digits ++ [Nat.digitChar (n % 10)], hd, hd', ?_⟩
      rw [Nat.toDigits_of_base_le (by decide) (by omega), front, List.cons_append]

/-- The digits of a number denote it. -/
theorem foldl_digitValues (n : Nat) :
    (digitValues (Nat.toDigits 10 n)).foldl (fun n d => n * 10 + d) 0 = n := by
  rw [digitValues, List.foldl_map]
  have denoted := Nat.ofDigitChars_ten_toDigits (n := n)
  rw [Nat.ofDigitChars_eq_foldl] at denoted
  simpa only [Nat.mul_comm 10] using denoted

/-- **A positive number is scanned into its digits**, with or without a sign. -/
theorem run_toDigits {n : Nat} (positive : 0 < n) :
    between.run (Nat.toDigits 10 n) =
        (.number false (.whole (digitValues (Nat.toDigits 10 n)).reverse), []) ∧
      between.run ('-' :: Nat.toDigits 10 n) =
        (.number true (.whole (digitValues (Nat.toDigits 10 n)).reverse), []) := by
  obtain ⟨d, digits, hd, hd', written⟩ := toDigits_eq_cons positive
  have each : ∀ c ∈ digits, c.isDigit := fun c mem =>
    Nat.isDigit_of_mem_toDigits (b := 10) (n := n) (by decide) (by decide)
      (written ▸ List.mem_cons_of_mem _ mem)
  have lead : (Nat.digitChar d).toNat - '0'.toNat = d := Nat.toNat_digitChar_sub_48_of_lt_ten hd'
  obtain ⟨plain, signed⟩ := start_digitChar hd hd'
  have values : (digitValues digits).reverse ++ [d] =
      (digitValues (Nat.digitChar d :: digits)).reverse := by
    simp only [digitValues, List.map_cons, lead, List.reverse_cons]
  rw [written, ← values]
  constructor
  · rw [run_cons, show between.step (Nat.digitChar d) = _ from plain, run_digits each]
    rfl
  · rw [run_cons, show between.step '-' = (.number true .sign, []) from rfl, run_cons, signed,
      run_digits each]
    rfl

/-- A plain literal that is in range is read as an integer. -/
theorem integer?_whole {negative : Bool} {n : Nat} {value : WordInt}
    (denoted : value.value = if negative then -(n : Int) else n)
    (signed : negative = true → 0 < n) :
    Literal.integer? ⟨negative, digitValues (Nat.toDigits 10 n), none, none⟩ = some value := by
  have wholeValue :
      Literal.wholeValue ⟨negative, digitValues (Nat.toDigits 10 n), none, none⟩ = n :=
    foldl_digitValues n
  have fits : WordInt.ofInt? value.value = some value := value.ofInt?_value
  have plain : Literal.isPlain ⟨negative, digitValues (Nat.toDigits 10 n), none, none⟩ = true := rfl
  unfold Literal.integer?
  simp only [plain, wholeValue, Bool.not_true, Bool.false_eq_true, if_false]
  cases negative with
  | false =>
    simp only [Bool.false_eq_true, if_false] at denoted ⊢
    rw [← denoted, fits]
  | true =>
    have nonzero : n ≠ 0 := Nat.ne_of_gt (signed rfl)
    simp only [if_true] at denoted
    rw [if_pos rfl, if_neg nonzero, ← denoted, fits]

/-- The token of a plain literal that is in range. -/
theorem literalToken_whole {negative : Bool} {n : Nat} {value : WordInt}
    (denoted : value.value = if negative then -(n : Int) else n)
    (signed : negative = true → 0 < n) :
    Digits.literalToken negative (digitValues (Nat.toDigits 10 n)).reverse =
      .number (some (.integer value)) := by
  have read := integer?_whole denoted signed
  rw [Digits.literalToken, List.reverse_reverse, Option.map_none, Literal.number?, read]

/-- What follows a value ends a number. -/
theorem spells_of_number {text : List Char} {negative : Bool} {digits : Digits} {token : Token}
    (open' : between.run text = (.number negative digits, []))
    (whole : digits.token? negative = some token) : Spells text [token] := by
  intro rest ends
  rw [tokens_append, open']
  cases rest with
  | nil => simp [tokens, finish, whole]
  | cons c rest =>
    -- neither a comma nor a new line goes on with a number
    have stop : (Scan.number negative digits).step c = ((start c).1, token :: (start c).2) := by
      have noDigit : digits.push? c = none ∧ c.isDigit = false := by
        rcases ends with rfl | rfl <;> cases digits <;> exact ⟨rfl, rfl⟩
      simp only [step, noDigit, whole, Bool.and_false, Bool.false_eq_true, if_false]
      rfl
    rw [tokens_cons, stop, tokens_cons]
    rfl

/-- **A written integer spells itself.** -/
theorem spells_integer (n : WordInt) :
    Spells (Number.integer n).text.toList [.number (some (.integer n))] := by
  have token : ∀ (negative : Bool) (m : Nat), (n.value = if negative then -(m : Int) else m) →
      (negative = true → 0 < m) →
      (Digits.whole (digitValues (Nat.toDigits 10 m)).reverse).token? negative =
        some (.number (some (.integer n))) :=
    fun negative m denoted signed => congrArg some (literalToken_whole denoted signed)
  obtain ⟨value, inWord⟩ := n
  cases value with
  | ofNat m =>
    have written : (Number.integer ⟨.ofNat m, inWord⟩).text.toList = Nat.toDigits 10 m := by
      exact Nat.toList_repr
    rw [written]
    rcases Nat.eq_zero_or_pos m with rfl | positive
    · have whole : between.run (Nat.toDigits 10 0) = (.number false .zero, []) := rfl
      exact spells_of_number whole rfl
    · exact spells_of_number (run_toDigits positive).1 (token false m rfl nofun)
  | negSucc m =>
    have written : (Number.integer ⟨.negSucc m, inWord⟩).text.toList =
        '-' :: Nat.toDigits 10 (m + 1) := by
      show ("-" ++ Nat.repr (m + 1)).toList = _
      rw [String.toList_append, Nat.toList_repr]
      rfl
    rw [written]
    exact spells_of_number (run_toDigits (Nat.succ_pos m)).2
      (token true (m + 1) rfl fun _ => Nat.succ_pos m)

/-! ## Fractions -/

/-- The tokens that the scanner stops at. -/
def Broken : Token → Prop
  | .brokenString _ _ | .brokenScalar _ _ | .stray => True
  | _ => False

/-- Where the scanner stops, one of the tokens that it has finished says why. -/
def SaysWhy (behind : Scan × List Token) : Prop :=
  behind.1 = stopped → ∃ token ∈ behind.2, Broken token

theorem saysWhy_broken {token : Token} (broken : Broken token) : SaysWhy (step.broken token) :=
  fun _ => ⟨token, List.mem_singleton_self token, broken⟩

theorem saysWhy_start (c : Char) : SaysWhy (start c) := by
  unfold start
  split
  · exact nofun
  · split
    -- all but the last branch, that of a character without a role, go on
    all_goals try (intro stops; cases stops)
    split
    · exact nofun
    · exact nofun
    · exact fun _ => ⟨.stray, List.mem_singleton_self _, trivial⟩

/-- **The scanner does not stop without a broken token.** -/
theorem saysWhy_step {s : Scan} (going : s ≠ stopped) (c : Char) : SaysWhy (s.step c) := by
  cases s with
  | between => exact saysWhy_start c
  | word next rest token =>
    simp only [step]
    split
    · exact saysWhy_broken trivial
    · split <;> exact nofun
  | number negative digits =>
    simp only [step]
    split
    · exact nofun
    · split
      · exact saysWhy_broken trivial
      · split
        · exact saysWhy_broken trivial
        · intro stops
          obtain ⟨token, mem, broken⟩ := saysWhy_start c stops
          exact ⟨token, List.mem_cons_of_mem _ mem, broken⟩
  | string q =>
    simp only [step]
    split
    · exact nofun
    · split
      · exact nofun
      · split
        · exact saysWhy_broken trivial
        · exact nofun
  | escape q =>
    simp only [step]
    split
    · exact nofun
    · split
      · exact nofun
      · exact saysWhy_broken trivial
  | unicode q digits =>
    simp only [step]
    split
    · exact nofun
    · split
      · exact nofun
      · exact saysWhy_broken trivial
  | stopped => exact absurd rfl going

theorem saysWhy_run {s : Scan} (going : s ≠ stopped) (text : List Char) : SaysWhy (s.run text) := by
  induction text generalizing s with
  | nil => exact fun stops => absurd stops going
  | cons c text ih =>
    intro stops
    by_cases here : (s.step c).1 = stopped
    · obtain ⟨token, mem, broken⟩ := saysWhy_step going c here
      exact ⟨token, List.mem_append_left _ mem, broken⟩
    · obtain ⟨token, mem, broken⟩ := ih here stops
      exact ⟨token, List.mem_append_right _ mem, broken⟩

/-- **A text of which a number is the only token** spells it, in front of other texts as well. -/
theorem spells_of_scan {text : List Char} {n : Number}
    (scanned : Token.scan text = [.number (some n)]) : Spells text [.number (some n)] := by
  rw [scan_eq_tokens, tokens] at scanned
  have why : SaysWhy (between.run text) := saysWhy_run (by simp) text
  generalize behind : between.run text = state at scanned why
  obtain ⟨state, out⟩ := state
  cases state with
  | between =>
    obtain rfl : out = [.number (some n)] := by simpa [finish] using scanned
    exact .of_run behind
  | number negative digits =>
    cases whole : digits.token? negative with
    | some token =>
      obtain ⟨rfl, rfl⟩ : out = [] ∧ token = .number (some n) := by
        simpa [finish, whole, List.append_eq_singleton_iff] using scanned
      exact spells_of_number behind whole
    | none => simp [finish, whole, List.append_eq_singleton_iff] at scanned
  | stopped =>
    obtain ⟨token, mem, broken⟩ := why rfl
    obtain rfl : out = [.number (some n)] := by simpa [finish] using scanned
    obtain rfl := List.mem_singleton.mp mem
    exact broken.elim
  | word | string | escape | unicode =>
    simp [finish, Quoted.interrupt, List.append_eq_singleton_iff] at scanned

end Scan

/-! ## Values -/

/-- **A fraction is read back** from what is written for it. -/
def Double.ReadsBack (x : Double) : Prop :=
  FreeJson.read x.text = .ok (.number (.fractional x))

mutual

/-- The fractions in a value, in the order of its text. -/
def Json.fractions : Json → List Double
  | .number (.fractional x) => [x]
  | .array items => itemFractions items
  | .object members => memberFractions members
  | _ => []

def itemFractions : List Json → List Double
  | [] => []
  | item :: items => item.fractions ++ itemFractions items

def memberFractions : List (String × Json) → List Double
  | [] => []
  | (_, value) :: members => value.fractions ++ memberFractions members

end

/-- Every fraction in the value is read back. -/
def Json.ReadsBack (value : Json) : Prop := ∀ x ∈ value.fractions, x.ReadsBack

namespace Scan

/-- A fraction spells itself. -/
theorem spells_double {x : Double} (readsBack : x.ReadsBack) :
    Spells x.text.toList [.number (some (.fractional x))] :=
  spells_of_scan (FreeJson.scan_of_read_number readsBack)

theorem ends_lineBreak (depth : Nat) (behind : List Char) :
    ∀ rest, Ends ((Json.lineBreak depth).toList ++ behind ++ rest) := by
  intro rest
  rw [Json.lineBreak, String.toList_append]
  exact .inr rfl

/-- A new line in front is not seen. -/
theorem Spells.line {text : List Char} {out : List Token} (spells : Spells text out)
    (depth : Nat) : Spells ((Json.lineBreak depth).toList ++ text) out :=
  .after (run_lineBreak depth) spells

/-- Items or members with a comma between them. -/
theorem Spells.comma {text behind : List Char} {out later : List Token}
    (spells : Spells text out) (spellsToo : Spells behind later) :
    Spells (text ++ ([','] ++ behind)) (out ++ .comma :: later) :=
  spells.append (fun _ => .inl rfl)
    (.after (show between.run [','] = (between, [.comma]) from rfl) spellsToo)

/-- A key on a new line and the colon behind it. -/
theorem run_key (depth : Nat) (key : String) :
    between.run ((Json.lineBreak depth).toList ++ (quote key).toList ++ [':', ' ']) =
      (between, [.string (some key), .colon]) := by
  rw [run_append, run_append, run_lineBreak, run_quote]
  rfl

mutual

/-- **The indented form of a value spells its tokens.** -/
theorem spells_indented : ∀ (value : Json) (depth : Nat), value.ReadsBack →
    Spells (value.indented depth).toList value.tokens
  | .null, _, _ => .of_run (show between.run "null".toList = _ from rfl)
  | .bool true, _, _ => .of_run (show between.run "true".toList = _ from rfl)
  | .bool false, _, _ => .of_run (show between.run "false".toList = _ from rfl)
  | .number (.integer n), _, _ => spells_integer n
  | .number (.fractional x), _, readsBack => spells_double (readsBack x List.mem_cons_self)
  | .string s, _, _ => .of_run (run_quote s)
  | .array [], depth, _ => by
    rw [Json.indented]
    exact .of_run rfl
  | .array (item :: items), depth, readsBack => by
    have inside := spells_indentedItems (item :: items) (depth + 1) readsBack
    have whole : Spells (['['] ++ ((Json.indentedItems (depth + 1) (item :: items)).toList ++
        ((Json.lineBreak depth).toList ++ [']']))) (Json.array (item :: items)).tokens :=
      .after (show between.run ['['] = (between, [.openArray]) from rfl)
        (inside.append (ends_lineBreak depth _) (.line (.of_run rfl) depth))
    rw [Json.indented, String.toList_append, String.toList_append, String.toList_append,
      List.append_assoc, List.append_assoc]
    · exact whole
    · exact nofun
  | .object [], depth, _ => by
    rw [Json.indented]
    exact .of_run rfl
  | .object (member :: members), depth, readsBack => by
    have inside := spells_indentedMembers (member :: members) (depth + 1) readsBack
    have whole : Spells
        (['\x7b'] ++ ((Json.indentedMembers (depth + 1) (member :: members)).toList ++
          ((Json.lineBreak depth).toList ++ ['\x7d']))) (Json.object (member :: members)).tokens :=
      .after (show between.run ['\x7b'] = (between, [.openObject]) from rfl)
        (inside.append (ends_lineBreak depth _) (.line (.of_run rfl) depth))
    rw [Json.indented, String.toList_append, String.toList_append, String.toList_append,
      List.append_assoc, List.append_assoc]
    · exact whole
    · exact nofun

theorem spells_indentedItems : ∀ (items : List Json) (depth : Nat),
    (∀ x ∈ itemFractions items, x.ReadsBack) →
    Spells (Json.indentedItems depth items).toList (Json.itemTokens items)
  | [], _, _ => .of_run rfl
  | [item], depth, readsBack => by
    have own := (List.forall_mem_append.mp readsBack).1
    rw [Json.indentedItems, String.toList_append]
    exact (spells_indented item depth own).line depth
  | item :: next :: items, depth, readsBack => by
    obtain ⟨own, others⟩ := List.forall_mem_append.mp readsBack
    have later := spells_indentedItems (next :: items) depth others
    rw [Json.indentedItems, Json.itemTokens_cons_cons, String.toList_append, String.toList_append,
      String.toList_append, List.append_assoc, List.append_assoc]
    · exact ((spells_indented item depth own).comma later).line depth
    · exact nofun

theorem spells_indentedMembers : ∀ (members : List (String × Json)) (depth : Nat),
    (∀ x ∈ memberFractions members, x.ReadsBack) →
    Spells (Json.indentedMembers depth members).toList (Json.memberTokens members)
  | [], _, _ => .of_run rfl
  | [(key, value)], depth, readsBack => by
    have own := (List.forall_mem_append.mp readsBack).1
    rw [Json.indentedMembers, String.toList_append, String.toList_append, String.toList_append]
    exact .after (run_key depth key) (spells_indented value depth own)
  | (key, value) :: next :: members, depth, readsBack => by
    obtain ⟨own, others⟩ := List.forall_mem_append.mp readsBack
    have later := spells_indentedMembers (next :: members) depth others
    rw [Json.indentedMembers, Json.memberTokens_cons_cons]
    · simp only [String.toList_append]
      rw [List.append_assoc, List.append_assoc]
      exact .after (run_key depth key)
        ((spells_indented value depth own).comma later)
    · exact nofun

end

/-- The tokens of the indented form, with something behind it that has none. -/
theorem scan_pretty {value : Json} (readsBack : value.ReadsBack) {behind : String}
    (ends : Ends behind.toList) (silent : between.tokens behind.toList = []) :
    Token.scan (value.pretty ++ behind).toList = value.tokens := by
  rw [scan_eq_tokens, String.toList_append, Json.pretty,
    spells_indented value 0 readsBack behind.toList ends, silent, List.append_nil]

end Scan

/-- **The indented form of a value is read as the value**, with a line end behind it or without, if
it is not too deep and its fractions are read back. -/
theorem Document.read_pretty {value : Json} (shallow : value.depth ≤ depthLimit)
    (readsBack : value.ReadsBack) :
    read value.pretty = (ofJson value, none) ∧
      read (value.pretty ++ "\n") = (ofJson value, none) := by
  have whole : Token.scan (value.pretty ++ "").toList = value.tokens :=
    Scan.scan_pretty readsBack trivial rfl
  have line : Token.scan (value.pretty ++ "\n").toList = value.tokens :=
    Scan.scan_pretty readsBack (.inr rfl) rfl
  rw [String.append_empty] at whole
  exact ⟨read_of_scan shallow whole, read_of_scan shallow line⟩

/-- As a free value it is read as its normal form. -/
theorem FreeJson.read_pretty {value : Json} (shallow : value.depth ≤ Document.depthLimit)
    (readsBack : value.ReadsBack) :
    FreeJson.read value.pretty = .ok value.normal ∧
      FreeJson.read (value.pretty ++ "\n") = .ok value.normal := by
  obtain ⟨whole, line⟩ := Document.read_pretty shallow readsBack
  simp only [FreeJson.read, whole, line, Document.free_ofJson]
  exact ⟨rfl, rfl⟩

end BlockPipeline
