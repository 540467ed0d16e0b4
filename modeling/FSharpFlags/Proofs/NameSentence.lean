import FSharpFlags.Framework.Name
import FSharpFlags.Proofs.Pieces
import Mathlib.Data.List.Basic
import Mathlib.Data.List.TakeWhile

/-!
# Sentences of a framework name

The tokens of a text are undone by writing them out, so a sentence of tokens determines its text
and a text its sentence. What the grammar accepts can therefore be said by cutting the text at its
commas: the first piece is the identifier, and every other piece has a key and a value around its
one equals sign.
-/

namespace FSharpFlags

namespace FrameworkName

/-! ## Tokens -/

namespace Token

/-- The characters of a token. -/
def chars : Token → List Char
  | .text cs => cs
  | .comma => [',']
  | .equals => ['=']

end Token

/-- Whether characters hold no mark of the grammar. -/
def IsPlain (w : List Char) : Prop := ',' ∉ w ∧ '=' ∉ w

/-- The token of a text between marks, if there is one. -/
def textTokens (w : List Char) : List Token := if w = [] then [] else [.text w]

theorem flatMap_chars_tokens (cs : List Char) : (tokens cs).flatMap Token.chars = cs := by
  induction cs with
  | nil => rfl
  | cons c rest ih =>
    rw [tokens]
    split
    · next hc => rw [List.flatMap_cons, ih, hc]; rfl
    · split
      · next hc => rw [List.flatMap_cons, ih, hc]; rfl
      · split
        · next w more htokens =>
          rw [htokens, List.flatMap_cons] at ih
          rw [List.flatMap_cons, ← ih]
          rfl
        · rw [List.flatMap_cons, ih]
          rfl

/-- A token of text is not empty and holds no mark. -/
theorem of_text_mem_tokens {cs w : List Char} (h : .text w ∈ tokens cs) : w ≠ [] ∧ IsPlain w := by
  induction cs generalizing w with
  | nil => cases h
  | cons c rest ih =>
    rw [tokens] at h
    split at h
    · exact ih (by simpa using h)
    · split at h
      · exact ih (by simpa using h)
      · next hcomma hequals =>
        split at h
        · next v more htokens =>
          rcases List.mem_cons.mp h with heq | hmore
          · obtain rfl := Token.text.inj heq
            obtain ⟨-, hcommas, hequal⟩ := ih (w := v) (by simp [htokens])
            exact ⟨List.cons_ne_nil _ _, by simp [Ne.symm hcomma, hcommas],
              by simp [Ne.symm hequals, hequal]⟩
          · exact ih (by simp [htokens, hmore])
        · rcases List.mem_cons.mp h with heq | hmore
          · obtain rfl := Token.text.inj heq
            exact ⟨List.cons_ne_nil _ _, by simp [Ne.symm hcomma], by simp [Ne.symm hequals]⟩
          · exact ih hmore

/-- Text before a mark, or at the end, is one token. -/
theorem tokens_append {w : List Char} (hw : IsPlain w) {rest : List Char}
    (hrest : ∀ v more, tokens rest ≠ .text v :: more) :
    tokens (w ++ rest) = textTokens w ++ tokens rest := by
  induction w with
  | nil => rfl
  | cons c w ih =>
    have hc : c ≠ ',' ∧ c ≠ '=' := by
      constructor
      · rintro rfl
        exact hw.1 List.mem_cons_self
      · rintro rfl
        exact hw.2 List.mem_cons_self
    have hplain : IsPlain w := ⟨fun h ↦ hw.1 (List.mem_cons_of_mem _ h),
      fun h ↦ hw.2 (List.mem_cons_of_mem _ h)⟩
    rw [List.cons_append, tokens, if_neg hc.1, if_neg hc.2, ih hplain]
    cases w with
    | nil =>
      rw [textTokens, if_pos rfl, List.nil_append]
      split
      · next v more htokens => exact absurd htokens (hrest v more)
      · rfl
    | cons d w => rfl

/-! ## Sentences -/

/-- A component as it is written. -/
def written (component : Component) : List Char := component.1 ++ '=' :: component.2

/-- Components as they are written, each behind its comma. -/
def writtenAll (components : List Component) : List Char :=
  components.flatMap fun component ↦ ',' :: written component

/-- Whether a component can be written: it has a key, and no mark but its equals sign. -/
def IsWritable (component : Component) : Prop :=
  component.1 ≠ [] ∧ IsPlain component.1 ∧ IsPlain component.2

theorem writtenAll_cons (component : Component) (rest : List Component) :
    writtenAll (component :: rest) = ',' :: (written component ++ writtenAll rest) := rfl

theorem not_text_tokens_writtenAll (components : List Component) (v : List Char)
    (more : List Token) : tokens (writtenAll components) ≠ .text v :: more := by
  cases components with
  | nil => intro h; cases h
  | cons component rest =>
    rw [writtenAll_cons, tokens, if_pos rfl]
    intro h
    cases h

theorem tokens_writtenAll_cons {component : Component} (h : IsWritable component)
    (rest : List Component) :
    tokens (writtenAll (component :: rest))
      = .comma :: .text component.1 :: .equals
        :: (textTokens component.2 ++ tokens (writtenAll rest)) := by
  obtain ⟨hkey, hleft, hright⟩ := h
  have hvalue := tokens_append hright (not_text_tokens_writtenAll rest)
  have hequals : tokens ('=' :: (component.2 ++ writtenAll rest))
      = .equals :: (textTokens component.2 ++ tokens (writtenAll rest)) := by
    rw [tokens, if_neg (by decide), if_pos rfl, hvalue]
  have hword : tokens (component.1 ++ '=' :: (component.2 ++ writtenAll rest))
      = textTokens component.1
        ++ .equals :: (textTokens component.2 ++ tokens (writtenAll rest)) := by
    rw [← hequals]
    exact tokens_append hleft fun v more ↦ by rw [hequals]; simp
  have hsplit : writtenAll (component :: rest)
      = ',' :: (component.1 ++ '=' :: (component.2 ++ writtenAll rest)) := by
    simp [writtenAll, written]
  rw [hsplit, tokens, if_pos rfl, hword, textTokens, if_neg hkey]
  rfl

theorem components?_tokens_writtenAll {components : List Component}
    (h : ∀ component ∈ components, IsWritable component) :
    components? (tokens (writtenAll components)) = some components := by
  induction components with
  | nil => rfl
  | cons component rest ih =>
    obtain ⟨hfirst, hrest⟩ := List.forall_mem_cons.mp h
    rw [tokens_writtenAll_cons hfirst]
    obtain ⟨key, value⟩ := component
    by_cases hvalue : value = []
    · subst hvalue
      rw [textTokens, if_pos rfl, List.nil_append, components?, ih hrest]
      · rfl
      · exact not_text_tokens_writtenAll rest
    · rw [textTokens, if_neg hvalue, List.singleton_append, components?, ih hrest]
      rfl

/-- The tokens of components write the components out. -/
theorem of_components?_eq_some {ts : List Token} {components : List Component}
    (h : components? ts = some components) (hwords : ∀ w, .text w ∈ ts → w ≠ [] ∧ IsPlain w) :
    ts.flatMap Token.chars = writtenAll components
      ∧ ∀ component ∈ components, IsWritable component := by
  -- The cases are the shapes that the grammar knows: a component with or without a value.
  fun_induction components? ts generalizing components with
  | case1 =>
    obtain rfl := Option.some.inj h
    exact ⟨rfl, by simp⟩
  | case2 key value rest ih =>
    obtain ⟨more, hmore, rfl⟩ := Option.map_eq_some_iff.mp h
    obtain ⟨hchars, hwritable⟩ := ih hmore fun w hw ↦ hwords w (by simp [hw])
    have hkey := hwords key (by simp)
    have hvalue := hwords value (by simp)
    refine ⟨?_, List.forall_mem_cons.mpr ⟨⟨hkey.1, hkey.2, hvalue.2⟩, hwritable⟩⟩
    rw [writtenAll_cons, ← hchars]
    simp [written, Token.chars]
  | case3 key rest _ ih =>
    obtain ⟨more, hmore, rfl⟩ := Option.map_eq_some_iff.mp h
    obtain ⟨hchars, hwritable⟩ := ih hmore fun w hw ↦ hwords w (by simp [hw])
    have hkey := hwords key (by simp)
    have hnone : IsPlain [] := ⟨List.not_mem_nil, List.not_mem_nil⟩
    refine ⟨?_, List.forall_mem_cons.mpr ⟨⟨hkey.1, hkey.2, hnone⟩, hwritable⟩⟩
    rw [writtenAll_cons, ← hchars]
    simp [written, Token.chars]
  | case4 ts => cases h

theorem sentence?_tokens_eq_some_iff {cs identifier : List Char} {components : List Component} :
    sentence? (tokens cs) = some (identifier, components)
      ↔ cs = identifier ++ writtenAll components ∧ identifier ≠ [] ∧ IsPlain identifier
        ∧ ∀ component ∈ components, IsWritable component := by
  constructor
  · intro h
    have hchars := flatMap_chars_tokens cs
    have hwords : ∀ w, .text w ∈ tokens cs → w ≠ [] ∧ IsPlain w := fun w ↦ of_text_mem_tokens
    unfold sentence? at h
    split at h
    · next w rest htokens =>
      rw [htokens] at hchars hwords
      obtain ⟨components', hcomponents, hpair⟩ := Option.map_eq_some_iff.mp h
      obtain ⟨rfl, rfl⟩ := Prod.mk.inj hpair
      obtain ⟨hwritten, hwritable⟩ := of_components?_eq_some hcomponents fun w hw ↦
        hwords w (List.mem_cons_of_mem _ hw)
      obtain ⟨hne, hplain⟩ := hwords w List.mem_cons_self
      rw [List.flatMap_cons, hwritten] at hchars
      exact ⟨hchars.symm, hne, hplain, hwritable⟩
    · cases h
  · rintro ⟨rfl, hne, hplain, hwritable⟩
    rw [tokens_append hplain (not_text_tokens_writtenAll components), textTokens, if_neg hne,
      List.singleton_append, sentence?, components?_tokens_writtenAll hwritable]
    rfl

/-! ## Pieces -/

/-- The piece of a text before its first comma. -/
def firstPiece (cs : List Char) : List Char := (cs.splitOn ',').headD []

/-- The pieces between and behind the commas of a text. -/
def laterPieces (cs : List Char) : List (List Char) := (cs.splitOn ',').tail

/-- What stands on either side of the first equals sign of a piece. -/
def sides (piece : List Char) : Component :=
  (piece.takeWhile (· ≠ '='), (piece.dropWhile (· ≠ '=')).tail)

theorem splitOn_eq_cons (cs : List Char) : cs.splitOn ',' = firstPiece cs :: laterPieces cs := by
  obtain ⟨first, more, hsplit⟩ := List.exists_cons_of_ne_nil (List.splitOn_ne_nil ',' cs)
  rw [firstPiece, laterPieces, hsplit]
  rfl

theorem sides_written {component : Component} (h : '=' ∉ component.1) :
    sides (written component) = component := by
  have hpos : ∀ c ∈ component.1, decide (c ≠ '=') = true := by
    intro c hc
    rw [decide_eq_true_eq]
    rintro rfl
    exact h hc
  rw [sides, written, List.takeWhile_append_of_pos hpos, List.dropWhile_append_of_pos hpos]
  simp

theorem written_sides {piece : List Char} (h : '=' ∈ piece) : written (sides piece) = piece := by
  obtain ⟨key, value, rfl, hkey⟩ := List.eq_append_cons_of_mem h
  have hsides : sides (written (key, value)) = (key, value) := sides_written hkey
  exact congrArg written hsides

/-- Whether the pieces of a text are those of an identifier and of components. -/
structure HasShape (cs : List Char) : Prop where
  /-- The identifier is there. -/
  identifier_ne_nil : firstPiece cs ≠ []
  /-- The identifier has no equals sign. -/
  identifier_plain : '=' ∉ firstPiece cs
  /-- Every other piece has exactly one equals sign. -/
  equals : ∀ piece ∈ laterPieces cs, piece.count '=' = 1
  /-- There is something before the equals sign. -/
  keyed : ∀ piece ∈ laterPieces cs, (sides piece).1 ≠ []

theorem count_written_of_isWritable {component : Component} (h : IsWritable component) :
    (written component).count '=' = 1 := by
  obtain ⟨-, hleft, hright⟩ := h
  rw [written, List.count_append, List.count_cons_self, List.count_eq_zero_of_not_mem hleft.2,
    List.count_eq_zero_of_not_mem hright.2]

theorem isWritable_sides {piece : List Char} (hcomma : ',' ∉ piece) (hcount : piece.count '=' = 1)
    (hkey : (sides piece).1 ≠ []) : IsWritable (sides piece) := by
  have hequals : '=' ∈ piece := List.count_pos_iff.mp (by omega)
  have hwritten := written_sides hequals
  rw [← hwritten, written, List.count_append, List.count_cons_self] at hcount
  rw [← hwritten, written, List.mem_append, List.mem_cons, not_or, not_or] at hcomma
  have hleft : (sides piece).1.count '=' = 0 := by omega
  have hright : (sides piece).2.count '=' = 0 := by omega
  exact ⟨hkey, ⟨hcomma.1, List.count_eq_zero.mp hleft⟩, hcomma.2.2, List.count_eq_zero.mp hright⟩

/-- Cutting what was written at its commas gives back what was written between them. -/
theorem splitOn_append_writtenAll {identifier : List Char} {components : List Component}
    (hidentifier : ',' ∉ identifier)
    (hcomponents : ∀ component ∈ components, IsWritable component) :
    (identifier ++ writtenAll components).splitOn ',' = identifier :: components.map written := by
  have hwritten : identifier ++ writtenAll components
      = [','].intercalate (identifier :: components.map written) := by
    rw [intercalate_cons, List.flatMap_map]
    rfl
  rw [hwritten]
  refine List.splitOn_intercalate ',' ?_ (List.cons_ne_nil _ _)
  refine List.forall_mem_cons.mpr ⟨hidentifier, fun piece hpiece ↦ ?_⟩
  obtain ⟨component, hcomponent, rfl⟩ := List.mem_map.mp hpiece
  obtain ⟨-, hleft, hright⟩ := hcomponents component hcomponent
  simp [written, hleft.1, hright.1]

/-- A piece is what its two sides write. -/
theorem writtenAll_map_sides {pieces : List (List Char)}
    (h : ∀ piece ∈ pieces, piece.count '=' = 1) :
    writtenAll (pieces.map sides) = pieces.flatMap (',' :: ·) := by
  rw [writtenAll, List.flatMap_map]
  refine List.flatMap_congr fun piece hpiece ↦ ?_
  have hequals : '=' ∈ piece := List.count_pos_iff.mp (by rw [h piece hpiece]; exact Nat.one_pos)
  rw [written_sides hequals]

/-- A text is a sentence exactly if its pieces have the shape of one, and it is the sentence of
its pieces. -/
theorem sentence?_tokens_eq_some_iff_hasShape {cs identifier : List Char}
    {components : List Component} :
    sentence? (tokens cs) = some (identifier, components)
      ↔ HasShape cs ∧ identifier = firstPiece cs ∧ components = (laterPieces cs).map sides := by
  rw [sentence?_tokens_eq_some_iff]
  constructor
  · rintro ⟨rfl, hne, hplain, hwritable⟩
    have hpieces := splitOn_append_writtenAll hplain.1 hwritable
    have hfirst : firstPiece (identifier ++ writtenAll components) = identifier := by
      rw [firstPiece, hpieces, List.headD_cons]
    have hlater : laterPieces (identifier ++ writtenAll components) = components.map written := by
      rw [laterPieces, hpieces, List.tail_cons]
    have hsides : ∀ component ∈ components, sides (written component) = component :=
      fun component hcomponent ↦ sides_written (hwritable component hcomponent).2.1.2
    refine ⟨⟨?_, ?_, ?_, ?_⟩, hfirst.symm, ?_⟩
    · rwa [hfirst]
    · rw [hfirst]
      exact hplain.2
    · rw [hlater, List.forall_mem_map]
      exact fun component hcomponent ↦
        count_written_of_isWritable (hwritable component hcomponent)
    · rw [hlater, List.forall_mem_map]
      intro component hcomponent
      rw [hsides component hcomponent]
      exact (hwritable component hcomponent).1
    · rw [hlater, List.map_map]
      exact (List.map_id _).symm.trans (List.map_congr_left fun component hcomponent ↦
        (hsides component hcomponent).symm)
  · rintro ⟨hshape, rfl, rfl⟩
    have hcommas : ∀ piece ∈ firstPiece cs :: laterPieces cs, ',' ∉ piece := by
      rw [← splitOn_eq_cons]
      exact fun piece ↦ not_mem_of_mem_splitOn
    obtain ⟨hfirst, hlater⟩ := List.forall_mem_cons.mp hcommas
    refine ⟨?_, hshape.identifier_ne_nil, ⟨hfirst, hshape.identifier_plain⟩, ?_⟩
    · -- Joining the pieces undoes the cutting.
      rw [writtenAll_map_sides hshape.equals, ← intercalate_cons, ← splitOn_eq_cons,
        List.intercalate_splitOn]
    · rw [List.forall_mem_map]
      exact fun piece hpiece ↦ isWritable_sides (hlater piece hpiece) (hshape.equals piece hpiece)
        (hshape.keyed piece hpiece)

theorem sentence?_tokens_of_hasShape {cs : List Char} (h : HasShape cs) :
    sentence? (tokens cs) = some (firstPiece cs, (laterPieces cs).map sides) :=
  sentence?_tokens_eq_some_iff_hasShape.mpr ⟨h, rfl, rfl⟩

theorem sentence?_tokens_of_not_hasShape {cs : List Char} (h : ¬HasShape cs) :
    sentence? (tokens cs) = none := by
  by_contra hsome
  obtain ⟨⟨identifier, components⟩, hsentence⟩ := Option.ne_none_iff_exists'.mp hsome
  exact h (sentence?_tokens_eq_some_iff_hasShape.mp hsentence).1

end FrameworkName

end FSharpFlags
