import TextIntent.Json.Writer
import TextIntent.Proofs.Json.Numeral

/-! Scanning the text of a value finds its tokens. A number or a word is still open at the end of its
characters, and any delimiter after it closes it; `Closed` says that for a scanner. -/
namespace TextIntent.Json

open Decimal (Numeral padded)

section Run

variable {σ τ : Type} {f : σ → τ → Option σ} {s t : σ}

/-- A run goes on after its first step. -/
theorem foldlM_cons_of {x : τ} (h : f s x = some t) (xs : List τ) :
    (x :: xs).foldlM f s = xs.foldlM f t := by
  rw [List.foldlM_cons, h]
  rfl

/-- A run goes on after its first part. -/
theorem foldlM_append_of {xs : List τ} (h : xs.foldlM f s = some t) (ys : List τ) :
    (xs ++ ys).foldlM f s = ys.foldlM f t := by
  rw [List.foldlM_append, h]
  rfl

end Run

mutual

/-- The tokens of a value. -/
def tokens : Json → List Token
  | .null => [.null]
  | .bool b => [.bool b]
  | .number n => [.number n]
  | .string s => [.string s]
  | .array [] => [.openArray, .closeArray]
  | .array (v :: vs) => .openArray :: tokens v ++ itemTokens vs
  | .object [] => [.openObject, .closeObject]
  | .object ((k, v) :: ms) => .openObject :: .string k :: .colon :: tokens v ++ memberTokens ms

/-- The tokens of the items after the first, and of the bracket that ends the array. -/
def itemTokens : List Json → List Token
  | [] => [.closeArray]
  | v :: vs => .comma :: tokens v ++ itemTokens vs

/-- The tokens of the members after the first, and of the brace that ends the object. -/
def memberTokens : List (Option String × Json) → List Token
  | [] => [.closeObject]
  | (k, v) :: ms => .comma :: .string k :: .colon :: tokens v ++ memberTokens ms

end

/-- What may stand after a value. -/
def isDelimiter (c : Char) : Bool := c = ',' || c = ']' || c = '\x7d'

/-- The tokens found, once the one under way is closed by the end of the text or by a delimiter. -/
structure Closed (s : Scanner) (found : List Token) : Prop where
  finish : finish s = some found
  scan {c : Char} (h : isDelimiter c = true) : scan s c = start found c

/-- Scanning the characters finds the tokens, whatever was found before. -/
def Scans (cs : List Char) (ts : List Token) : Prop :=
  ∀ found, ∃ s, cs.foldlM scan ⟨found, .between⟩ = some s ∧ Closed s (ts.reverse ++ found)

theorem isDelimiter_iff {c : Char} : isDelimiter c = true ↔ c = ',' ∨ c = ']' ∨ c = '\x7d' := by
  simp [isDelimiter, or_assoc]

theorem closed_between (found : List Token) : Closed ⟨found, .between⟩ found := ⟨rfl, fun _ => rfl⟩

/-- No delimiter can belong to a number. -/
theorem closed_number {seen : List Char} {found tokens : List Token}
    (h : finish ⟨found, .number seen⟩ = some tokens) : Closed ⟨found, .number seen⟩ tokens := by
  refine ⟨h, fun {c} hc => ?_⟩
  have hn : isNumberChar c = false := by
    rcases isDelimiter_iff.mp hc with rfl | rfl | rfl <;> rfl
  change (if isNumberChar c then _ else _) = _
  rw [hn, if_neg (by simp), h]
  rfl

/-- No delimiter can belong to a word. -/
theorem closed_word {seen : List Char} {found tokens : List Token}
    (h : finish ⟨found, .word seen⟩ = some tokens) : Closed ⟨found, .word seen⟩ tokens := by
  refine ⟨h, fun {c} hc => ?_⟩
  have hn : c.isLower = false := by
    rcases isDelimiter_iff.mp hc with rfl | rfl | rfl <;> rfl
  change (if c.isLower then _ else _) = _
  rw [hn, if_neg (by simp), h]
  rfl

theorem start_digit {c : Char} (h : (c.isDigit || c = '-') = true) (found : List Token) :
    start found c = some ⟨found, .number [c]⟩ := by
  unfold start
  split
  all_goals first | exact absurd h (by decide) | rw [if_pos h]

theorem isNumberChar_of_mem_toDigits {n : ℕ} {c : Char} (h : c ∈ Nat.toDigits 10 n) :
    isNumberChar c = true := by
  simp [isNumberChar, isDigit_of_mem_toDigits h]

theorem isNumberChar_of_mem_exponentText {e : Option ℤ} {c : Char}
    (h : c ∈ Numeral.exponentText e) : isNumberChar c = true := by
  rcases e with _ | k | k
  · simp [Numeral.exponentText] at h
  all_goals
    simp only [Numeral.exponentText, List.mem_cons] at h
    rcases h with rfl | rfl | h
    · rfl
    · rfl
    · exact isNumberChar_of_mem_toDigits h

theorem isNumberChar_of_mem_chars {n : Numeral} {c : Char} (h : c ∈ n.chars) :
    isNumberChar c = true := by
  simp only [Numeral.chars, List.mem_append] at h
  rcases h with ((h | h) | h) | h
  · split_ifs at h
    · rw [List.mem_singleton.mp h]
      rfl
    · simp at h
  · exact isNumberChar_of_mem_toDigits h
  · split_ifs at h
    · simp at h
    · rcases List.mem_cons.mp h with rfl | h
      · rfl
      · simp [isNumberChar, isDigit_of_mem_padded h]
  · exact isNumberChar_of_mem_exponentText h

/-- A numeral begins with a digit or a minus sign. -/
theorem chars_eq_cons (n : Numeral) :
    ∃ c cs, n.chars = c :: cs ∧ (c.isDigit || c = '-') = true := by
  unfold Numeral.chars
  cases n.negative with
  | true => exact ⟨_, _, rfl, rfl⟩
  | false =>
    obtain ⟨d, ds, hw, hd⟩ := toDigits_eq_cons (n.digits / Decimal.tenTo n.places)
    rw [hw]
    exact ⟨d, _, rfl, by rw [hd, Bool.true_or]⟩

theorem foldlM_scan_number (found : List Token) {cs : List Char}
    (h : ∀ c ∈ cs, isNumberChar c = true) (seen : List Char) :
    cs.foldlM scan ⟨found, .number seen⟩ = some ⟨found, .number (cs.reverse ++ seen)⟩ := by
  induction cs generalizing seen with
  | nil => rfl
  | cons c cs ih =>
    have hc : scan ⟨found, .number seen⟩ c = some ⟨found, .number (c :: seen)⟩ :=
      if_pos (h c List.mem_cons_self)
    rw [foldlM_cons_of hc, ih fun d hd => h d (List.mem_cons_of_mem c hd)]
    simp

theorem scans_numeral (n : Numeral) : Scans n.chars [.number n] := by
  intro found
  obtain ⟨c, cs, hn, hc⟩ := chars_eq_cons n
  have hall : ∀ d ∈ cs, isNumberChar d = true := fun d hd =>
    isNumberChar_of_mem_chars (hn ▸ List.mem_cons_of_mem c hd)
  have hf : finish ⟨found, .number (cs.reverse ++ [c])⟩ = some (.number n :: found) := by
    have hr := numeral?_chars n
    rw [hn] at hr
    simp [finish, hr]
  refine ⟨⟨found, .number (cs.reverse ++ [c])⟩, ?_, closed_number hf⟩
  have hs : scan ⟨found, .between⟩ c = some ⟨found, .number [c]⟩ := start_digit hc found
  rw [hn, foldlM_cons_of hs]
  exact foldlM_scan_number found hall [c]

theorem hexDigit?_digitChar {d : ℕ} (h : d < 16) : hexDigit? (Nat.digitChar d) = some d := by
  interval_cases d <;> rfl

/-- The piece of a string stands for a character. -/
def Stands (p : Piece) (c : Char) : Prop := ∀ ps, assemble (p :: ps) = (assemble ps).map (c :: ·)

theorem stands_char (c : Char) : Stands (.char c) c := fun _ => rfl

theorem stands_unit {c : Char} (h : c.toNat < 0xd800) : Stands (.unit c.toNat) c := by
  intro ps
  have h₁ : isHighSurrogate c.toNat = false := by
    simp only [isHighSurrogate, Bool.and_eq_false_iff, decide_eq_false_iff_not]
    omega
  have h₂ : isLowSurrogate c.toNat = false := by
    simp only [isLowSurrogate, Bool.and_eq_false_iff, decide_eq_false_iff_not]
    omega
  conv_lhs => unfold assemble
  simp [h₁, h₂]

theorem scan_unit {c : Char} {d : ℕ} (h : hexDigit? c = some d) (found : List Token)
    (seen : List Piece) (digits value : ℕ) :
    scan ⟨found, .unit seen digits value⟩ c =
      some ⟨found, if digits = 3 then .string (.unit (16 * value + d) :: seen)
        else .unit seen (digits + 1) (16 * value + d)⟩ := by
  simp [scan, h]

/-- A character is scanned back from its escape, or from itself if it needs none. -/
theorem scan_escapedChar (found : List Token) (seen : List Piece) (c : Char) :
    ∃ p, (escapedChar c).foldlM scan ⟨found, .string seen⟩ = some ⟨found, .string (p :: seen)⟩ ∧
      Stands p c := by
  unfold escapedChar
  split
  case h_8 _ hq hb _ _ _ _ _ =>
    split_ifs with h
    · -- a control character is written, and found again, as a code unit
      have hn : c.toNat < 32 := h
      have h₁ := hexDigit?_digitChar (d := c.toNat / 16) (by omega)
      have h₂ := hexDigit?_digitChar (d := c.toNat % 16) (by omega)
      have hv : 16 * (c.toNat / 16) + c.toNat % 16 = c.toNat := Nat.div_add_mod _ _
      refine ⟨.unit c.toNat, ?_, stands_unit (by omega)⟩
      have hu : (['\\', 'u', '0', '0']).foldlM scan ⟨found, .string seen⟩ =
          some ⟨found, .unit seen 2 0⟩ := rfl
      have hhigh := scan_unit h₁ found seen 2 0
      have hlow := scan_unit h₂ found seen 3 (c.toNat / 16)
      simp only [Nat.reduceEqDiff, if_false, if_true, hv, Nat.mul_zero, Nat.zero_add] at hhigh hlow
      rw [foldlM_append_of hu, hexPair, foldlM_cons_of hhigh]
      exact foldlM_cons_of hlow []
    · refine ⟨.char c, ?_, stands_char c⟩
      have hs : scan ⟨found, .string seen⟩ c = some ⟨found, .string (.char c :: seen)⟩ := by
        unfold scan
        simp only
        rw [if_neg hq, if_neg hb, if_neg h]
      exact foldlM_cons_of hs []
  all_goals exact ⟨.char _, rfl, stands_char _⟩

theorem scan_escapedChars (found : List Token) (seen : List Piece) (cs : List Char) :
    ∃ ps, (cs.flatMap escapedChar).foldlM scan ⟨found, .string seen⟩ =
      some ⟨found, .string (ps.reverse ++ seen)⟩ ∧ assemble ps = some cs := by
  induction cs generalizing seen with
  | nil => exact ⟨[], rfl, rfl⟩
  | cons c cs ih =>
    obtain ⟨p, hp, hc⟩ := scan_escapedChar found seen c
    obtain ⟨ps, hps, hcs⟩ := ih (p :: seen)
    refine ⟨p :: ps, ?_, ?_⟩
    · rw [List.flatMap_cons, foldlM_append_of hp, hps]
      simp
    · rw [hc ps, hcs]
      rfl

theorem scan_stringChars (s : Option String) (found : List Token) :
    (stringChars s).foldlM scan ⟨found, .between⟩ = some ⟨.string s :: found, .between⟩ := by
  cases s with
  | none =>
    have h : stringChars none = ['"', '\\', 'u', 'd', '8', '0', '0', '"'] := rfl
    rw [h]
    rfl
  | some s =>
    obtain ⟨ps, hps, hs⟩ := scan_escapedChars found [] s.toList
    have hopen : scan ⟨found, .between⟩ '"' = some ⟨found, .string []⟩ := rfl
    have hclose : scan ⟨found, .string (ps.reverse ++ [])⟩ '"' =
        some ⟨.string (some s) :: found, .between⟩ := by
      simp [scan, hs]
    change ('"' :: (s.toList.flatMap escapedChar ++ ['"'])).foldlM scan ⟨found, .between⟩ = _
    rw [foldlM_cons_of hopen, foldlM_append_of hps, foldlM_cons_of hclose]
    rfl

/-- A key with its value. -/
theorem Scans.member {v : Json} (h : Scans v.chars v.tokens) (k : Option String) :
    Scans (stringChars k ++ ':' :: v.chars) (.string k :: .colon :: v.tokens) := by
  intro found
  obtain ⟨s, hs, hc⟩ := h (.colon :: .string k :: found)
  have hcolon : scan ⟨.string k :: found, .between⟩ ':' =
      some ⟨.colon :: .string k :: found, .between⟩ := rfl
  refine ⟨s, ?_, by simpa using hc⟩
  rw [foldlM_append_of (scan_stringChars k found), foldlM_cons_of hcolon, hs]

mutual

/-- The characters of a value are scanned into its tokens. -/
theorem scans_chars (v : Json) : Scans v.chars v.tokens := by
  intro found
  cases v with
  | null => exact ⟨⟨found, .word ['l', 'l', 'u', 'n']⟩, rfl, closed_word rfl⟩
  | bool b =>
    cases b with
    | false => exact ⟨⟨found, .word ['e', 's', 'l', 'a', 'f']⟩, rfl, closed_word rfl⟩
    | true => exact ⟨⟨found, .word ['e', 'u', 'r', 't']⟩, rfl, closed_word rfl⟩
  | number n => exact scans_numeral n found
  | string s => exact ⟨_, scan_stringChars s found, closed_between _⟩
  | array items =>
    cases items with
    | nil => exact ⟨_, rfl, closed_between _⟩
    | cons v vs =>
      obtain ⟨s, hs, hc⟩ := scans_chars v (.openArray :: found)
      have hopen : scan ⟨found, .between⟩ '[' = some ⟨.openArray :: found, .between⟩ := rfl
      refine ⟨_, ?_, closed_between _⟩
      change ('[' :: (chars v ++ itemChars vs)).foldlM scan _ = _
      rw [foldlM_cons_of hopen, foldlM_append_of hs, scan_itemChars vs hc]
      simp [tokens]
  | object members =>
    cases members with
    | nil => exact ⟨_, rfl, closed_between _⟩
    | cons m ms =>
      obtain ⟨k, v⟩ := m
      obtain ⟨s, hs, hc⟩ := (scans_chars v).member k (.openObject :: found)
      have hopen : scan ⟨found, .between⟩ '\x7b' = some ⟨.openObject :: found, .between⟩ := rfl
      refine ⟨_, ?_, closed_between _⟩
      change ('\x7b' :: (stringChars k ++ ':' :: chars v ++ memberChars ms)).foldlM scan _ = _
      rw [foldlM_cons_of hopen, foldlM_append_of hs, scan_memberChars ms hc]
      simp [tokens]

theorem scan_itemChars (vs : List Json) {s : Scanner} {found : List Token} (h : Closed s found) :
    (itemChars vs).foldlM scan s = some ⟨(itemTokens vs).reverse ++ found, .between⟩ := by
  cases vs with
  | nil => exact foldlM_cons_of (h.scan rfl) []
  | cons v vs =>
    obtain ⟨t, ht, hc⟩ := scans_chars v (.comma :: found)
    have hcomma : scan s ',' = some ⟨.comma :: found, .between⟩ := h.scan rfl
    change (',' :: (chars v ++ itemChars vs)).foldlM scan s = _
    rw [foldlM_cons_of hcomma, foldlM_append_of ht, scan_itemChars vs hc]
    simp [itemTokens]

theorem scan_memberChars (ms : List (Option String × Json)) {s : Scanner} {found : List Token}
    (h : Closed s found) :
    (memberChars ms).foldlM scan s = some ⟨(memberTokens ms).reverse ++ found, .between⟩ := by
  cases ms with
  | nil => exact foldlM_cons_of (h.scan rfl) []
  | cons m ms =>
    obtain ⟨k, v⟩ := m
    obtain ⟨t, ht, hc⟩ := (scans_chars v).member k (.comma :: found)
    have hcomma : scan s ',' = some ⟨.comma :: found, .between⟩ := h.scan rfl
    change (',' :: (stringChars k ++ ':' :: chars v ++ memberChars ms)).foldlM scan s = _
    rw [foldlM_cons_of hcomma, foldlM_append_of ht, scan_memberChars ms hc]
    simp [memberTokens]

end

/-- The tokens of a written value. -/
theorem tokens?_write (v : Json) : tokens? v.write.toList = some v.tokens := by
  obtain ⟨s, hs, hc⟩ := scans_chars v []
  have hl : v.write.toList = v.chars := String.toList_ofList
  unfold tokens? tokensReversed?
  rw [hl, hs]
  simp [hc.finish]

end TextIntent.Json
