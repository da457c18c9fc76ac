import TextIntent.Json.Reader
import TextIntent.Proofs.Json.Scan

/-! A written value is read back. The reader takes the tokens of a value to the value on the same
stack, and the tokens of the items or members that follow it to the whole array or object. -/
namespace TextIntent.Json

/-- The first token of a value does not end an array. -/
theorem tokens_eq_cons (v : Json) : ∃ t ts, v.tokens = t :: ts ∧
    ∀ stack, read (.firstItem stack) t = read (.value (.array [] :: stack)) t := by
  rcases v with _ | _ | _ | _ | ⟨_ | _⟩ | ⟨_ | ⟨⟨_, _⟩, _⟩⟩ <;> exact ⟨_, _, rfl, fun _ => rfl⟩

mutual

/-- The tokens of a value are read as that value. -/
theorem read_tokens (v : Json) (stack : List Frame) :
    v.tokens.foldlM read (.value stack) = some (.after v stack) := by
  cases v with
  | null => rfl
  | bool b => rfl
  | number n => rfl
  | string s => rfl
  | array items =>
    cases items with
    | nil => rfl
    | cons v vs =>
      -- the first item follows the bracket, where the reader also expects the end of the array
      obtain ⟨t, ts, ht, hf⟩ := tokens_eq_cons v
      have hopen : read (.value stack) .openArray = some (.firstItem stack) := rfl
      have hv : v.tokens.foldlM read (.firstItem stack) = some (.after v (.array [] :: stack)) := by
        rw [← read_tokens v (.array [] :: stack), ht, List.foldlM_cons, List.foldlM_cons, hf]
      change (Token.openArray :: (tokens v ++ itemTokens vs)).foldlM read _ = _
      rw [foldlM_cons_of hopen, foldlM_append_of hv, read_itemTokens v [] vs]
      rfl
  | object members =>
    cases members with
    | nil => rfl
    | cons m ms =>
      obtain ⟨k, v⟩ := m
      have hopen : read (.value stack) .openObject = some (.firstKey stack) := rfl
      have hk : read (.firstKey stack) (.string k) = some (.colon [] k stack) := rfl
      have hcolon : read (.colon [] k stack) .colon = some (.value (.object [] k :: stack)) := rfl
      change (Token.openObject :: .string k :: .colon :: (tokens v ++ memberTokens ms)).foldlM read _ = _
      rw [foldlM_cons_of hopen, foldlM_cons_of hk, foldlM_cons_of hcolon,
        foldlM_append_of (read_tokens v _), read_memberTokens k v [] ms]
      rfl

theorem read_itemTokens (v : Json) (items vs : List Json) {stack : List Frame} :
    (itemTokens vs).foldlM read (.after v (.array items :: stack)) =
      some (.after (.array (items.reverse ++ v :: vs)) stack) := by
  cases vs with
  | nil =>
    have hclose : read (.after v (.array items :: stack)) .closeArray =
        some (.after (.array (v :: items).reverse) stack) := rfl
    exact (foldlM_cons_of hclose []).trans (by simp)
  | cons w vs =>
    have hcomma : read (.after v (.array items :: stack)) .comma =
        some (.value (.array (v :: items) :: stack)) := rfl
    change (Token.comma :: (tokens w ++ itemTokens vs)).foldlM read _ = _
    rw [foldlM_cons_of hcomma, foldlM_append_of (read_tokens w _), read_itemTokens w (v :: items) vs]
    simp

theorem read_memberTokens (k : Option String) (v : Json) (members ms : List (Option String × Json))
    {stack : List Frame} :
    (memberTokens ms).foldlM read (.after v (.object members k :: stack)) =
      some (.after (.object (members.reverse ++ (k, v) :: ms)) stack) := by
  cases ms with
  | nil =>
    have hclose : read (.after v (.object members k :: stack)) .closeObject =
        some (.after (.object ((k, v) :: members).reverse) stack) := rfl
    exact (foldlM_cons_of hclose []).trans (by simp)
  | cons m ms =>
    obtain ⟨l, w⟩ := m
    have hcomma : read (.after v (.object members k :: stack)) .comma =
        some (.key ((k, v) :: members) stack) := rfl
    have hl : read (.key ((k, v) :: members) stack) (.string l) =
        some (.colon ((k, v) :: members) l stack) := rfl
    have hcolon : read (.colon ((k, v) :: members) l stack) .colon =
        some (.value (.object ((k, v) :: members) l :: stack)) := rfl
    change (Token.comma :: .string l :: .colon :: (tokens w ++ memberTokens ms)).foldlM read _ = _
    rw [foldlM_cons_of hcomma, foldlM_cons_of hl, foldlM_cons_of hcolon,
      foldlM_append_of (read_tokens w _), read_memberTokens l w ((k, v) :: members) ms]
    simp

end

/-- Every value is read back from its text, whatever strings and numerals it holds. -/
theorem parse?_write (v : Json) : parse? v.write = some v := by
  unfold parse? ofTokens?
  rw [tokens?_write v]
  change (v.tokens.foldlM read (.value [])).bind Reader.result? = some v
  rw [read_tokens v []]
  rfl

end TextIntent.Json
