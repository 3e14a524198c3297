import BroadcastGraphics.Placeholder
import Mathlib.Data.List.Nodup
import Mathlib.Data.List.TakeWhile

/-!
# What is filled is what is found

Cutting content into pieces is compared with a relation that says, without a scanner, what reading
from left to right means: where a placeholder stands it is taken whole, and a character is taken on
its own only where none stands.  There is exactly one such reading of a text, it is the one that
both the filling and the search for names use, and its pieces put together are the text.
-/

namespace BroadcastGraphics
namespace Placeholder

/-- A name a placeholder can hold: ASCII letters, digits and underscores, at least one. -/
def IsName (name : List Char) : Prop :=
  name ≠ [] ∧ ∀ character ∈ name, Text.isAsciiWord character = true

instance (name : List Char) : Decidable (IsName name) :=
  inferInstanceAs (Decidable (name ≠ [] ∧ ∀ character ∈ name, Text.isAsciiWord character = true))

/-- A placeholder of this name stands at the start of the text. -/
def StandsAt (name text : List Char) : Prop :=
  IsName name ∧ (Piece.token name).source <+: text

/-- The pieces are a reading of the text from left to right: each placeholder that is reached is
taken whole, and a character is taken on its own only where no placeholder stands. -/
inductive Reads : List Char -> List Piece -> Prop
  | done : Reads [] []
  | token {name rest : List Char} {pieces : List Piece}
      (isName : IsName name) (later : Reads rest pieces) :
      Reads ((Piece.token name).source ++ rest) (.token name :: pieces)
  | plain {character : Char} {rest : List Char} {pieces : List Piece}
      (bare : ∀ name, ¬ StandsAt name (character :: rest)) (later : Reads rest pieces) :
      Reads (character :: rest) (.plain character :: pieces)

theorem source_token (name : List Char) :
    (Piece.token name).source = '\x7b' :: '\x7b' :: (name ++ ['\x7d', '\x7d']) := rfl

theorem length_source_token (name : List Char) :
    (Piece.token name).source.length = name.length + 4 := by
  simp [source_token]

/-- A name ends where the closing braces begin. -/
theorem takeWhile_isName
    {name : List Char}
    (isName : IsName name)
    (rest : List Char) :
    (name ++ '\x7d' :: rest).takeWhile Text.isAsciiWord = name ∧
      (name ++ '\x7d' :: rest).dropWhile Text.isAsciiWord = '\x7d' :: rest := by
  have brace : Text.isAsciiWord '\x7d' = false := by decide
  constructor
  · rw [List.takeWhile_append_of_pos isName.2, List.takeWhile_cons, brace]
    simp
  · rw [List.dropWhile_append_of_pos isName.2, List.dropWhile_cons, brace]
    simp

/-- The scanner sees a placeholder exactly where one stands, and sees its name. -/
theorem tokenAt?_eq_some_iff
    (text name : List Char) :
    tokenAt? text = some name ↔ StandsAt name text := by
  constructor
  · intro seen
    unfold tokenAt? at seen
    split at seen
    · rename_i rest
      dsimp only at seen
      split at seen
      · rename_i first others after wordPart restPart
        cases seen
        have whole := List.takeWhile_append_dropWhile (p := Text.isAsciiWord) (l := rest)
        rw [restPart] at whole
        refine ⟨⟨?_, fun character member => List.mem_takeWhile_imp member⟩, after, ?_⟩
        · rw [wordPart]
          exact List.cons_ne_nil _ _
        · calc (Piece.token (rest.takeWhile Text.isAsciiWord)).source ++ after
              = '\x7b' :: '\x7b' ::
                  (rest.takeWhile Text.isAsciiWord ++ '\x7d' :: '\x7d' :: after) := by
                simp [source_token]
            _ = '\x7b' :: '\x7b' :: rest := by rw [whole]
      · cases seen
    · cases seen
  · rintro ⟨isName, rest, rfl⟩
    obtain ⟨taken, left⟩ := takeWhile_isName isName ('\x7d' :: rest)
    obtain ⟨first, others, rfl⟩ := List.exists_cons_of_ne_nil isName.1
    have shape : (Piece.token (first :: others)).source ++ rest =
        '\x7b' :: '\x7b' :: (first :: others ++ '\x7d' :: '\x7d' :: rest) := by
      simp [source_token]
    rw [shape]
    simp only [tokenAt?, taken, left]

theorem tokenAt?_eq_none_iff (text : List Char) :
    tokenAt? text = none ↔ ∀ name, ¬ StandsAt name text := by
  rw [Option.eq_none_iff_forall_ne_some]
  exact forall_congr' fun name => not_congr (tokenAt?_eq_some_iff text name)

/-- At most one placeholder stands at a place. -/
theorem StandsAt.unique
    {name other text : List Char}
    (here : StandsAt name text)
    (there : StandsAt other text) : name = other := by
  rw [← tokenAt?_eq_some_iff] at here there
  exact Option.some.inj (here.symm.trans there)

/-- Characters to pass over are passed over. -/
theorem cut_eq_cut_drop (passed : Nat) (text : List Char) :
    cut passed text = cut 0 (text.drop passed) := by
  induction passed generalizing text with
  | zero => rfl
  | succ passed ih =>
    cases text with
    | nil => rfl
    | cons character rest => rw [cut, ih, List.drop_succ_cons]

theorem cut_token
    {name : List Char}
    (isName : IsName name)
    (rest : List Char) :
    cut 0 ((Piece.token name).source ++ rest) = .token name :: cut 0 rest := by
  have seen := (tokenAt?_eq_some_iff _ name).2 ⟨isName, rest, rfl⟩
  rw [source_token, List.cons_append] at seen ⊢
  have length : name.length + 3 = ('\x7b' :: (name ++ ['\x7d', '\x7d'])).length := by simp
  rw [cut, seen]
  dsimp only
  rw [cut_eq_cut_drop, length, List.drop_left]

theorem cut_plain
    {character : Char}
    {rest : List Char}
    (bare : ∀ name, ¬ StandsAt name (character :: rest)) :
    cut 0 (character :: rest) = .plain character :: cut 0 rest := by
  rw [cut, (tokenAt?_eq_none_iff _).2 bare]

/-- Cutting a text reads it from left to right. -/
theorem reads_cut (text : List Char) : Reads text (cut 0 text) := by
  -- A placeholder takes several characters at once, so the induction is on the length.
  induction length : text.length using Nat.strongRecOn generalizing text with
  | ind size ih =>
    subst length
    cases text with
    | nil => exact .done
    | cons character rest =>
      by_cases stands : ∃ name, StandsAt name (character :: rest)
      · obtain ⟨name, isName, after, whole⟩ := stands
        rw [← whole, cut_token isName]
        refine .token isName (ih after.length ?_ after rfl)
        rw [← whole, List.length_append, length_source_token]
        omega
      · have bare := not_exists.1 stands
        rw [cut_plain bare]
        exact .plain bare (ih rest.length (Nat.lt_succ_self _) rest rfl)

/-- A text has one reading: its pieces. -/
theorem reads_iff (text : List Char) (pieces : List Piece) :
    Reads text pieces ↔ pieces = cut 0 text := by
  constructor
  · intro reading
    induction reading with
    | done => rfl
    | token isName _ ih => rw [cut_token isName, ih]
    | plain bare _ ih => rw [cut_plain bare, ih]
  · rintro rfl
    exact reads_cut text

/-- The pieces put together are the text. -/
theorem Reads.source
    {text : List Char}
    {pieces : List Piece}
    (reading : Reads text pieces) : pieces.flatMap Piece.source = text := by
  induction reading with
  | done => rfl
  | token _ _ ih => rw [List.flatMap_cons, ih]
  | plain _ _ ih => rw [List.flatMap_cons, ih]; rfl

/-- The placeholders of a reading have names. -/
theorem Reads.isName
    {text name : List Char}
    {pieces : List Piece}
    (reading : Reads text pieces)
    (member : Piece.token name ∈ pieces) : IsName name := by
  induction reading with
  | done => cases member
  | token isName _ ih =>
    rcases List.mem_cons.1 member with here | later
    · cases here
      exact isName
    · exact ih later
  | plain _ _ ih =>
    rcases List.mem_cons.1 member with here | later
    · cases here
    · exact ih later

theorem mem_appendNew (found more : List String) (name : String) :
    name ∈ appendNew found more ↔ name ∈ found ∨ name ∈ more := by
  induction more generalizing found with
  | nil => simp [appendNew]
  | cons first rest ih =>
    rw [appendNew, ih, List.mem_cons]
    split
    · rename_i present
      constructor
      · exact Or.imp_right Or.inr
      · rintro (old | rfl | later)
        · exact Or.inl old
        · exact Or.inl present
        · exact Or.inr later
    · rw [List.mem_append, List.mem_singleton, or_assoc]

theorem nodup_appendNew
    {found : List String}
    (nodup : found.Nodup)
    (more : List String) : (appendNew found more).Nodup := by
  induction more generalizing found with
  | nil => exact nodup
  | cons first rest ih =>
    rw [appendNew]
    split
    · exact ih nodup
    · rename_i absent
      exact ih (List.nodup_append.2 ⟨nodup, List.nodup_singleton _, by
        rintro name member other single rfl
        exact absent (List.mem_singleton.1 single ▸ member)⟩)

theorem nodup_names (content : Option String) : (names content).Nodup := by
  cases content with
  | none => exact List.nodup_nil
  | some content => exact nodup_appendNew List.nodup_nil _

/-- The names of a content are those of its placeholder pieces. -/
theorem mem_names_iff (content name : String) :
    name ∈ names (some content) ↔
      ∃ token, Piece.token token ∈ pieces content ∧ String.ofList token = name := by
  unfold names
  rw [mem_appendNew, List.mem_filterMap]
  constructor
  · rintro (none | ⟨piece, member, named⟩)
    · cases none
    · cases piece with
      | plain character => cases named
      | token token => exact ⟨token, member, Option.some.inj named⟩
  · rintro ⟨token, member, rfl⟩
    exact Or.inr ⟨.token token, member, rfl⟩

theorem isName_of_mem_names
    {content name : String}
    (member : name ∈ names (some content)) : IsName name.toList := by
  obtain ⟨token, isThere, rfl⟩ := (mem_names_iff content name).1 member
  rw [String.toList_ofList]
  exact (reads_cut content.toList).isName isThere

/-- What a placeholder becomes depends on the value of its name, where no value is as good as
none. -/
theorem filled_token (data : Table Json) (name : List Char) :
    (Piece.token name).filled data =
      if Json.memberOrNull data (String.ofList name) = .null then (Piece.token name).source
      else (Json.memberOrNull data (String.ofList name)).liveText.toList := by
  unfold Json.memberOrNull
  rw [Piece.filled]
  split
  · rename_i absent
    simp [absent]
  · rename_i empty
    simp [empty]
  · rename_i value notNull present
    rw [present, Option.getD_some, if_neg notNull]

/-- Data that agree on the names of a content fill it alike. -/
theorem fill_congr
    {content : String}
    {left right : Table Json}
    (agree : ∀ name ∈ names (some content),
      Json.memberOrNull left name = Json.memberOrNull right name) :
    fill (some content) left = fill (some content) right := by
  rw [fill, fill]
  congr 1
  refine List.flatMap_congr fun piece member => ?_
  cases piece with
  | plain character => rfl
  | token token =>
    rw [filled_token, filled_token, agree _ ((mem_names_iff content _).2 ⟨token, member, rfl⟩)]

theorem fill_nil (content : String) : fill (some content) [] = content := by
  have plain : ∀ piece : Piece, piece.filled [] = piece.source := by
    rintro (character | token) <;> rfl
  rw [fill, pieces, List.flatMap_congr fun piece _ => plain piece]
  rw [(reads_cut content.toList).source, String.ofList_toList]

/-- Filling and finding agree.  No name is found twice; the filled text depends on the values of
the names found and on nothing else, and is the content where none of them has a value.  Content
has exactly one reading from left to right, its placeholders are the names found, and the filled
text is the pieces of that reading filled one by one. -/
theorem fill_agrees_with_names (content : String) :
    (names (some content)).Nodup ∧
      (∀ left right : Table Json,
        (∀ name ∈ names (some content),
          Json.memberOrNull left name = Json.memberOrNull right name) ->
        fill (some content) left = fill (some content) right) ∧
      (∀ data : Table Json,
        (∀ name ∈ names (some content), Json.memberOrNull data name = .null) ->
        fill (some content) data = content) ∧
      ∃ reading : List Piece,
        (∀ other, Reads content.toList other ↔ other = reading) ∧
        reading.flatMap Piece.source = content.toList ∧
        (∀ name, name ∈ names (some content) ↔
          ∃ token, Piece.token token ∈ reading ∧ String.ofList token = name) ∧
        ∀ data : Table Json,
          (fill (some content) data).toList = reading.flatMap (Piece.filled data) := by
  refine ⟨nodup_names _, fun _ _ => fill_congr, fun data unset => ?_,
    pieces content, reads_iff _, (reads_cut _).source, mem_names_iff content,
    fun data => String.toList_ofList⟩
  have agree : ∀ name ∈ names (some content),
      Json.memberOrNull data name = Json.memberOrNull [] name :=
    fun name member => unset name member
  rw [fill_congr agree, fill_nil]

end Placeholder
end BroadcastGraphics
