import Klogproc.Accesslog.Parser

/-!
# Lines of fields through the tokenizer

An access-log line is a list of fields joined by single spaces.  A field is a bare word, or a
phrase: an opener `"` or `[`, words joined by single spaces, and the matching closer.  This
module runs `tokenize` on such a line.

* `Field.render` is the text of a field and `renderLine` the text of a line.  `Field.pieces`
  are the parts that `strings.Split` cuts a field's text into, so that the split of a line is
  the pieces of its fields in order (`split_renderLine`).
* One spec lemma per situation of the loop body: a bare word (`tokenizeStep_bare`), a phrase
  of one word (`tokenizeStep_closed`), the first word of a longer phrase (`tokenizeStep_open`),
  an inner word (`tokenizeStep_inner`) and the last word (`tokenizeStep_close`).
* `tokenize_renderLine`: every line of at most ten well-formed fields gives the fields' tokens,
  padded with empty tokens to ten.  The token of a phrase leaves out each inner word that starts
  with the closer, because the loop skips such a word (line 115); `keepWords` says which stay,
  and `tokenize_drops_inner_closer` is a line where one is lost.
-/

namespace Klogproc.Accesslog

open Klogproc.Go

/-- A field of an access-log line: a bare word, or a phrase of words between an opener and
its closer. -/
inductive Field where
  | bare (w : List UInt8)
  | phrase (opener : UInt8) (words : List (List UInt8))
  deriving DecidableEq, Repr

/-- The closer `c` appended to the last of the pieces. -/
def closeLast (c : UInt8) : List (List UInt8) → List (List UInt8)
  | [] => []
  | [w] => [w ++ [c]]
  | w :: v :: rest => w :: closeLast c (v :: rest)

/-- The text of a field. -/
def Field.render : Field → List UInt8
  | bare w => w
  | phrase o ws => o :: join ws space ++ [testOpenQuot o]

/-- The pieces that `strings.Split` cuts the text of a field into. -/
def Field.pieces : Field → List (List UInt8)
  | bare w => [w]
  | phrase o [] => [[o, testOpenQuot o]]
  | phrase o (w :: rest) => closeLast (testOpenQuot o) ((o :: w) :: rest)

/-- A line of fields, joined by single spaces. -/
def renderLine (fs : List Field) : List UInt8 :=
  join (fs.map Field.render) space

/-- The fields of a line: a bare word is non-empty, has no space and does not start with `"`
or `[`; a phrase has an opener `"` or `[` and at least one word, its words have no space, and
when it has two words or more, they are non-empty and none but the last ends with the closer. -/
def Field.WellFormed : Field → Prop
  | bare w => w ≠ [] ∧ space ∉ w ∧ w.head? ≠ some dquote ∧ w.head? ≠ some lbracket
  | phrase o ws => (o = dquote ∨ o = lbracket) ∧ ws ≠ [] ∧ (∀ w ∈ ws, space ∉ w) ∧
      (2 ≤ ws.length → (∀ w ∈ ws, w ≠ []) ∧
        ∀ w ∈ ws.dropLast, w.getLast? ≠ some (testOpenQuot o))

instance : DecidablePred Field.WellFormed := fun f =>
  match f with
  | .bare w => inferInstanceAs
      (Decidable (w ≠ [] ∧ space ∉ w ∧ w.head? ≠ some dquote ∧ w.head? ≠ some lbracket))
  | .phrase o ws => inferInstanceAs
      (Decidable ((o = dquote ∨ o = lbracket) ∧ ws ≠ [] ∧ (∀ w ∈ ws, space ∉ w) ∧
        (2 ≤ ws.length → (∀ w ∈ ws, w ≠ []) ∧
          ∀ w ∈ ws.dropLast, w.getLast? ≠ some (testOpenQuot o))))

/-- The value of a field: the word, or the words of the phrase joined by single spaces. -/
def Field.value : Field → List UInt8
  | bare w => w
  | phrase _ ws => join ws space

/-- The words after the first that the token of a phrase keeps: the last one, and each inner
one that does not start with the closer `c`. -/
def keepWords (c : UInt8) : List (List UInt8) → List (List UInt8)
  | [] => []
  | [w] => [w]
  | w :: v :: rest => (if w.head? = some c then [] else [w]) ++ keepWords c (v :: rest)

/-- The token that `tokenize` gives for a field. -/
def Field.tokenValue : Field → List UInt8
  | bare w => w
  | phrase _ [] => []
  | phrase o (w :: rest) => join (w :: keepWords (testOpenQuot o) rest) space

/-! ## Openers and closers -/

section Quotes

variable {o c : UInt8}

/-- An opener of a phrase. -/
def IsOpener (o : UInt8) : Prop := o = dquote ∨ o = lbracket

theorem testOpenQuot_ne_zero (ho : IsOpener o) : testOpenQuot o ≠ 0 := by
  rcases ho with rfl | rfl <;> decide

theorem testOpenQuot_ne_space (ho : IsOpener o) : testOpenQuot o ≠ space := by
  rcases ho with rfl | rfl <;> decide

theorem opener_ne_space (ho : IsOpener o) : o ≠ space := by
  rcases ho with rfl | rfl <;> decide

theorem opener_ne_zero (ho : IsOpener o) : o ≠ 0 := by
  rcases ho with rfl | rfl <;> decide

theorem testOpenQuot_eq_zero (h1 : c ≠ dquote) (h2 : c ≠ lbracket) : testOpenQuot c = 0 := by
  simp [testOpenQuot, h1, h2]

/-- Inside a phrase, a byte closes it exactly when it is the opener's closer. -/
theorem isCloseQuot_iff (ho : IsOpener o) : isCloseQuot o c = true ↔ c = testOpenQuot o := by
  rcases ho with rfl | rfl <;> simp [isCloseQuot, testOpenQuot, dquote, lbracket, rbracket]

end Quotes

/-! ## The loop body, by situation -/

section Step

variable {st : TokState} {o : UInt8}

theorem updateTokenAt_of_lt {items : List (List UInt8)} {i : Nat} (v : List UInt8)
    (h : i < items.length) : updateTokenAt items i v = .ok (items.set i v) := by
  rw [updateTokenAt, if_pos h, setAt_of_lt v h]

/-- A bare word, outside a phrase, is the next token. -/
theorem tokenizeStep_bare {w : List UInt8} (hq : st.currQuotChar = 0) (hw : w ≠ [])
    (hc : testOpenQuot (w.head hw) = 0) (hpos : st.parsedPos < st.items.length) :
    tokenizeStep st w =
      .ok { st with items := st.items.set st.parsedPos w, parsedPos := st.parsedPos + 1 } := by
  have hlen : w.length ≠ 0 := by simpa using hw
  simp only [tokenizeStep, hlen, if_false, hq, if_true, index_zero hw, Result.ok_bind, hc,
    ne_eq, not_true_eq_false, hpos, setAt_of_lt _ hpos]
  rfl

/-- A piece that opens and closes a phrase, outside a phrase, is the next token, without
its delimiters. -/
theorem tokenizeStep_closed {item : List UInt8} (hq : st.currQuotChar = 0) (hne : item ≠ [])
    (ho : IsOpener (item.head hne)) (hlast : item.getLast hne = testOpenQuot (item.head hne))
    (hgt : 1 < item.length) (hpos : st.parsedPos < st.items.length) :
    tokenizeStep st item =
      .ok { st with items := st.items.set st.parsedPos item.tail.dropLast,
                    parsedPos := st.parsedPos + 1 } := by
  have hlen : item.length ≠ 0 := by omega
  simp only [tokenizeStep, hlen, if_false, hq, if_true, index_zero hne, Result.ok_bind,
    index_last hne, testOpenQuot_ne_zero ho, hlast, ne_eq, not_true_eq_false, not_false_eq_true,
    gt_iff_lt, hgt, slice_one_last hgt, updateTokenAt_of_lt _ hpos]
  rfl

/-- A piece that opens a phrase and does not close it, outside a phrase, starts the phrase. -/
theorem tokenizeStep_open {item : List UInt8} (hq : st.currQuotChar = 0) (hne : item ≠ [])
    (ho : IsOpener (item.head hne)) (hlast : item.getLast hne ≠ testOpenQuot (item.head hne)) :
    tokenizeStep st item =
      .ok { st with currQuoted := st.currQuoted ++ [item.tail],
                    currQuotChar := item.head hne } := by
  have hlen : item.length ≠ 0 := by simpa using hne
  simp only [tokenizeStep, hlen, if_false, hq, if_true, index_zero hne, Result.ok_bind,
    index_last hne, testOpenQuot_ne_zero ho, hlast, ne_eq, not_false_eq_true,
    slice_to_length (by omega : (0 : Int) ≤ 1) (by omega : (1 : Int) ≤ item.length)]
  simp

/-- An inner word of a phrase is quoted, unless it starts with the closer. -/
theorem tokenizeStep_inner {item : List UInt8} (ho : IsOpener o) (hq : st.currQuotChar = o)
    (hne : item ≠ []) (hlast : item.getLast hne ≠ testOpenQuot o) :
    tokenizeStep st item = .ok (if item.head hne = testOpenQuot o then st
      else { st with currQuoted := st.currQuoted ++ [item] }) := by
  have hlen : item.length ≠ 0 := by simpa using hne
  have hcl : isCloseQuot o (item.getLast hne) = false :=
    Bool.eq_false_iff.2 fun h => hlast ((isCloseQuot_iff ho).1 h)
  simp only [tokenizeStep, hlen, if_false, hq, opener_ne_zero ho, index_zero hne,
    Result.ok_bind, index_last hne, hcl, Bool.false_eq_true]
  by_cases hh : item.head hne = testOpenQuot o
  · simp [hh, (isCloseQuot_iff ho).2 rfl]
  · have hh' : isCloseQuot o (item.head hne) = false :=
      Bool.eq_false_iff.2 fun h => hh ((isCloseQuot_iff ho).1 h)
    simp [hh, hh']

/-- The last word of a phrase closes it: the quoted words and this one, joined by single
spaces, are the next token. -/
theorem tokenizeStep_close {w : List UInt8} (ho : IsOpener o) (hq : st.currQuotChar = o)
    (hpos : st.parsedPos < st.items.length) :
    tokenizeStep st (w ++ [testOpenQuot o]) = .ok ⟨st.items.set st.parsedPos
      (join (st.currQuoted ++ [w]) space), [], 0, st.parsedPos + 1⟩ := by
  have hne : w ++ [testOpenQuot o] ≠ [] := by simp
  have hlen : (w ++ [testOpenQuot o]).length ≠ 0 := by simp
  have hcl : isCloseQuot o ((w ++ [testOpenQuot o]).getLast hne) = true := by
    simp [isCloseQuot_iff ho]
  simp only [tokenizeStep, hlen, if_false, hq, opener_ne_zero ho, index_last hne,
    Result.ok_bind, hcl, if_true, slice_zero_last hne, List.dropLast_concat,
    updateTokenAt_of_lt _ hpos]
  rfl

end Step

/-! ## The pieces of a field -/

section Pieces

variable {c : UInt8}

theorem closeLast_ne_nil {l : List (List UInt8)} (hl : l ≠ []) : closeLast c l ≠ [] := by
  match l, hl with
  | [_], _ => simp [closeLast]
  | _ :: _ :: _, _ => simp [closeLast]

theorem join_closeLast {l : List (List UInt8)} (hl : l ≠ []) :
    join (closeLast c l) space = join l space ++ [c] := by
  induction l with
  | nil => exact absurd rfl hl
  | cons w rest ih =>
    cases rest with
    | nil => simp [closeLast]
    | cons v rest =>
      rw [closeLast, join_cons w (closeLast_ne_nil (List.cons_ne_nil v rest)),
        ih (List.cons_ne_nil v rest), join_cons w (List.cons_ne_nil v rest)]
      simp

theorem mem_closeLast {l : List (List UInt8)} {p : List UInt8} (hp : p ∈ closeLast c l) :
    p ∈ l ∨ ∃ w ∈ l, p = w ++ [c] := by
  induction l with
  | nil => simp [closeLast] at hp
  | cons w rest ih =>
    cases rest with
    | nil => simp [closeLast] at hp; exact Or.inr ⟨w, by simp, hp⟩
    | cons v rest =>
      rw [closeLast, List.mem_cons] at hp
      rcases hp with rfl | hp
      · simp
      · rcases ih hp with h | ⟨w', hw', rfl⟩
        · exact Or.inl (List.mem_cons_of_mem _ h)
        · exact Or.inr ⟨w', List.mem_cons_of_mem _ hw', rfl⟩

end Pieces

/-- The text of a well-formed field is its pieces joined by single spaces. -/
theorem render_eq_join_pieces {f : Field} (hf : f.WellFormed) :
    f.render = join f.pieces space := by
  match f, hf with
  | .bare w, _ => simp [Field.render, Field.pieces]
  | .phrase o (w :: rest), _ =>
    rw [Field.render, Field.pieces, join_closeLast (List.cons_ne_nil _ _), join_cons_head]

theorem pieces_ne_nil (f : Field) : f.pieces ≠ [] := by
  match f with
  | .bare _ => simp [Field.pieces]
  | .phrase _ [] => simp [Field.pieces]
  | .phrase _ (_ :: _) => exact closeLast_ne_nil (List.cons_ne_nil _ _)

theorem space_not_mem_pieces {f : Field} (hf : f.WellFormed) :
    ∀ p ∈ f.pieces, space ∉ p := by
  match f, hf with
  | .bare w, ⟨_, hsp, _⟩ => simpa [Field.pieces] using hsp
  | .phrase o (w :: rest), ⟨ho, _, hsp, _⟩ =>
    intro p hp
    rcases mem_closeLast hp with hp | ⟨v, hv, rfl⟩
    · rcases List.mem_cons.1 hp with rfl | hp
      · simpa [(opener_ne_space ho).symm] using hsp w (List.mem_cons_self _ _)
      · exact hsp p (List.mem_cons_of_mem _ hp)
    · rcases List.mem_cons.1 hv with rfl | hv
      · simpa [(opener_ne_space ho).symm, (testOpenQuot_ne_space ho).symm] using
          hsp _ (List.mem_cons_self _ _)
      · simpa [(testOpenQuot_ne_space ho).symm] using hsp v (List.mem_cons_of_mem _ hv)

/-- `strings.Split` cuts a line of well-formed fields into the pieces of its fields. -/
theorem split_renderLine {fs : List Field} (hwf : ∀ f ∈ fs, f.WellFormed) (hne : fs ≠ []) :
    split (renderLine fs) space = (fs.map Field.pieces).flatten := by
  have hmap : fs.map Field.render = (fs.map Field.pieces).map (join · space) := by
    rw [List.map_map]
    exact List.map_congr_left fun f hf => render_eq_join_pieces (hwf f hf)
  rw [renderLine, hmap, join_map_join _ (by simpa using fun f _ => pieces_ne_nil f), split, join]
  apply List.splitOn_intercalate
  · intro p hp
    obtain ⟨l, hl, hp⟩ := List.mem_flatten.1 hp
    obtain ⟨f, hf, rfl⟩ := List.mem_map.1 hl
    exact space_not_mem_pieces (hwf f hf) p hp
  · obtain ⟨f, fs, rfl⟩ := List.exists_cons_of_ne_nil hne
    simp [pieces_ne_nil]

/-! ## Fields through the loop -/

/-- The words of a phrase after its first, with the closer appended to the last: each inner
word is quoted unless it starts with the closer, and the last one closes the phrase. -/
theorem foldlM_closeLast {o : UInt8} (ho : IsOpener o) :
    ∀ (l : List (List UInt8)), l ≠ [] → (∀ w ∈ l, w ≠ []) →
      (∀ w ∈ l.dropLast, w.getLast? ≠ some (testOpenQuot o)) →
      ∀ st : TokState, st.currQuotChar = o → st.parsedPos < st.items.length →
      (closeLast (testOpenQuot o) l).foldlM tokenizeStep st = .ok ⟨st.items.set st.parsedPos
        (join (st.currQuoted ++ keepWords (testOpenQuot o) l) space), [], 0, st.parsedPos + 1⟩
  | [w], _, _, _, st, hq, hpos => by
    simp [closeLast, keepWords, tokenizeStep_close ho hq hpos]
  | w :: v :: rest, _, hne, hend, st, hq, hpos => by
    have hw : w ≠ [] := hne w (List.mem_cons_self _ _)
    have hlast : w.getLast hw ≠ testOpenQuot o := fun h =>
      hend w (by simp) (by rw [List.getLast?_eq_getLast _ hw, h])
    have ih := foldlM_closeLast ho (v :: rest) (List.cons_ne_nil _ _)
      (fun w' hw' => hne w' (List.mem_cons_of_mem _ hw'))
      (fun w' hw' => hend w' (by simp [List.mem_cons_of_mem _ hw']))
    rw [closeLast, List.foldlM_cons, tokenizeStep_inner ho hq hw hlast, Result.ok_bind]
    by_cases hh : w.head hw = testOpenQuot o
    · rw [if_pos hh, ih st hq hpos]
      simp [keepWords, List.head?_eq_head hw, hh]
    · rw [if_neg hh, ih { st with currQuoted := st.currQuoted ++ [w] } hq hpos]
      simp [keepWords, List.head?_eq_head hw, hh]

/-- A well-formed field, read from outside a phrase, is the next token. -/
theorem foldlM_pieces {f : Field} (hf : f.WellFormed) (st : TokState)
    (hq : st.currQuotChar = 0) (hqd : st.currQuoted = []) (hpos : st.parsedPos < st.items.length) :
    f.pieces.foldlM tokenizeStep st =
      .ok ⟨st.items.set st.parsedPos f.tokenValue, [], 0, st.parsedPos + 1⟩ := by
  match f, hf with
  | .bare w, ⟨hw, _, h1, h2⟩ =>
    have hc : testOpenQuot (w.head hw) = 0 := testOpenQuot_eq_zero
      (fun h => h1 (by rw [List.head?_eq_head hw, h]))
      (fun h => h2 (by rw [List.head?_eq_head hw, h]))
    simp [Field.pieces, tokenizeStep_bare hq hw hc hpos, Field.tokenValue, hq, hqd]
  | .phrase o [w], ⟨ho, _⟩ =>
    have hne : (o :: w) ++ [testOpenQuot o] ≠ [] := by simp
    rw [Field.pieces, closeLast, List.foldlM_cons,
      tokenizeStep_closed hq hne (ho : IsOpener o) (by simp) (by simp) hpos, Result.ok_bind]
    simp [Field.tokenValue, keepWords, hq, hqd]
  | .phrase o (w :: v :: rest), ⟨ho, _, _, hlong⟩ =>
    obtain ⟨hne, hend⟩ := hlong (by simp)
    have hw : w ≠ [] := hne w (List.mem_cons_self _ _)
    have hlast : (o :: w).getLast (List.cons_ne_nil _ _) ≠ testOpenQuot o := by
      rw [List.getLast_cons hw]
      exact fun h => hend w (by simp) (by rw [List.getLast?_eq_getLast _ hw, h])
    rw [Field.pieces, closeLast, List.foldlM_cons,
      tokenizeStep_open hq (List.cons_ne_nil _ _) ho hlast, Result.ok_bind]
    simp only [List.tail_cons, List.head_cons]
    rw [foldlM_closeLast ho (v :: rest) (List.cons_ne_nil _ _)
        (fun w' hw' => hne w' (List.mem_cons_of_mem _ hw'))
        (fun w' hw' => hend w' (by simp [List.mem_cons_of_mem _ hw']))
        { st with currQuoted := st.currQuoted ++ [w], currQuotChar := o } rfl hpos]
    simp [Field.tokenValue, hqd]

theorem set_length_append_replicate (done : List (List UInt8)) (v : List UInt8) (k : Nat) :
    (done ++ List.replicate (k + 1) []).set done.length v =
      (done ++ [v]) ++ List.replicate k [] := by
  rw [List.set_append_right _ _ (le_refl _), Nat.sub_self, List.replicate_succ,
    List.set_cons_zero]
  simp

/-- The fields of a line, read after the tokens `done` and before `m` empty tokens, are the
next tokens. -/
theorem foldlM_fields (fs : List Field) (hwf : ∀ f ∈ fs, f.WellFormed)
    (done : List (List UInt8)) (m : Nat) (hm : fs.length ≤ m) :
    (fs.map Field.pieces).flatten.foldlM tokenizeStep
        ⟨done ++ List.replicate m [], [], 0, done.length⟩ =
      .ok ⟨done ++ fs.map Field.tokenValue ++ List.replicate (m - fs.length) [], [], 0,
        done.length + fs.length⟩ := by
  induction fs generalizing done m with
  | nil => simp
  | cons f fs ih =>
    obtain ⟨m, rfl⟩ : ∃ m', m = m' + 1 := ⟨m - 1, by simp at hm; omega⟩
    rw [List.map_cons, List.flatten_cons, Result.foldlM_append,
      foldlM_pieces (hwf f (List.mem_cons_self _ _)) _ rfl rfl (by simp), Result.ok_bind]
    simp only
    rw [set_length_append_replicate, show done.length + 1 = (done ++ [f.tokenValue]).length by simp,
      ih (fun f' hf' => hwf f' (List.mem_cons_of_mem _ hf')) (done ++ [f.tokenValue]) m
        (by simpa using hm)]
    simp [Nat.add_assoc, Nat.add_comm 1]

/-- A line of at most ten well-formed fields, joined by single spaces: `tokenize` returns no
error, and its tokens are the fields' tokens in order, padded with empty tokens to ten.  The
token of a bare word is the word, and that of a phrase is its words joined by single spaces,
without the delimiters and without each inner word that starts with the closer. -/
theorem tokenize_renderLine (fs : List Field) (hlen : fs.length ≤ 10)
    (hwf : ∀ f ∈ fs, f.WellFormed) :
    tokenize (renderLine fs) =
      .ok (fs.map Field.tokenValue ++ List.replicate (10 - fs.length) []) := by
  by_cases hne : fs = []
  · subst hne; rfl
  · have h := foldlM_fields fs hwf [] 10 hlen
    simp only [List.nil_append, List.length_nil, Nat.zero_add] at h
    rw [tokenize, split_renderLine hwf hne]
    exact (congrArg (· >>= fun st => pure st.items) h).trans rfl

/-- The line `a "b c"`: the tokens `a` and `b c`, then eight empty ones. -/
theorem tokenize_renderLine_quoted :
    ([.bare [97], .phrase dquote [[98], [99]]] : List Field).length ≤ 10 ∧
      (∀ f ∈ ([.bare [97], .phrase dquote [[98], [99]]] : List Field), f.WellFormed) ∧
      tokenize (renderLine [.bare [97], .phrase dquote [[98], [99]]]) =
        .ok (([.bare [97], .phrase dquote [[98], [99]]] : List Field).map Field.tokenValue ++
          List.replicate (10 - 2) []) :=
  ⟨by decide, by decide, tokenize_renderLine _ (by decide) (by decide)⟩

/-- The phrase `[a ]b c]`: its inner word `]b` starts with the closer, and its token is `a c`
where the phrase's words joined are `a ]b c`. -/
theorem tokenize_drops_inner_closer :
    (Field.phrase lbracket [[97], [93, 98], [99]]).WellFormed ∧
      tokenize (renderLine [.phrase lbracket [[97], [93, 98], [99]]]) ≠
        .ok ([Field.value (.phrase lbracket [[97], [93, 98], [99]])] ++ List.replicate 9 []) := by
  decide

end Klogproc.Accesslog
