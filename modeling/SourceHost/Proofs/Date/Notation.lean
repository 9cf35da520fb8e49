import Mathlib.Data.List.TakeWhile
import SourceHost.Date.Pattern

/-!
# From patterns to templates

A pattern says by letters, quotes and the absence of quotes what a template says by percent signs.
What stands for itself in a pattern must stand for itself in its template, whatever signs it has in
it, and nothing else may.

* `Pattern.Splits` — the pieces of a pattern: runs of a letter, and texts that stand for themselves.
* `Pattern.splits_iff` — every pattern has pieces, and has no others.
* `Pattern.scan` — the template is written while the pattern is gone through once.
* `Template.items?_flatMap_itemText` — a template can be read in one way only.
* `Pattern.readBack` — what is read in the template are the pieces of the pattern.
-/

set_option autoImplicit false

namespace SourceHost

namespace Pattern

/-! ## The pieces of a pattern -/

/-- A piece of a pattern. -/
inductive Piece where
  /-- A letter so many times. -/
  | run (letter : Char) (count : Nat)
  /-- A text that stands for itself. -/
  | text (chars : List Char)
deriving DecidableEq, Repr

/-- The parts that a piece stands for: a field, if the run is one of a field, or characters. -/
def Piece.items : Piece → List DateItem
  | run letter count => ((DateField.ofRun letter count).map .field).toList
  | text chars => chars.map .literal

/-- A text as it stands in quotes: a quote is written twice. -/
def doubled (text : List Char) : List Char :=
  text.flatMap fun c ↦ if c = '\'' then ['\'', '\''] else [c]

/-- A pattern has some pieces. -/
inductive Splits : List Char → List Piece → Prop
  /-- Nothing has none. -/
  | nil : Splits [] []
  /-- A letter is taken as often as it comes. -/
  | run {letter : Char} {count : Nat} {rest : List Char} {pieces : List Piece}
    (hletter : letter.isAlpha) (hcount : 0 < count) (hend : rest.head? ≠ some letter)
    (h : Splits rest pieces) :
    Splits (List.replicate count letter ++ rest) (.run letter count :: pieces)
  /-- Two quotes are a quote. -/
  | quote {rest : List Char} {pieces : List Piece} (h : Splits rest pieces) :
    Splits ('\'' :: '\'' :: rest) (.text ['\''] :: pieces)
  /-- A text stands between quotes; it has characters, and the first of them is no quote. -/
  | quoted {text rest : List Char} {pieces : List Piece} (hsome : text ≠ [])
    (hbegin : text.head? ≠ some '\'') (hend : rest.head? ≠ some '\'') (h : Splits rest pieces) :
    Splits ('\'' :: doubled text ++ '\'' :: rest) (.text text :: pieces)
  /-- A text that is not closed runs to the end. -/
  | unclosed {text : List Char} (hbegin : text.head? ≠ some '\'') :
    Splits ('\'' :: doubled text) [.text text]
  /-- Any other character stands for itself. -/
  | other {char : Char} {rest : List Char} {pieces : List Piece} (hquote : char ≠ '\'')
    (hletter : ¬char.isAlpha) (h : Splits rest pieces) :
    Splits (char :: rest) (.text [char] :: pieces)

/-- The pieces of a pattern. -/
def pieces : List Char → List Piece
  | [] => []
  | '\'' :: '\'' :: rest => .text ['\''] :: pieces rest
  | c :: rest =>
    if c = '\'' then .text (quoted rest).1 :: pieces (quoted rest).2
    else if c.isAlpha then
      let count := (rest.takeWhile (· = c)).length
      .run c (count + 1) :: pieces (rest.drop count)
    else .text [c] :: pieces rest
termination_by s => s.length
decreasing_by
  · simp only [List.length_cons]; omega
  · have := length_quoted rest; simp only [List.length_cons]; omega
  · simp only [List.length_cons, List.length_drop]; omega
  · simp only [List.length_cons]; omega

/-! ## Quoted texts -/

theorem doubled_cons (c : Char) (text : List Char) :
    doubled (c :: text) = (if c = '\'' then ['\'', '\''] else [c]) ++ doubled text := rfl

theorem quoted_quote_quote (rest : List Char) :
    quoted ('\'' :: '\'' :: rest) = ('\'' :: (quoted rest).1, (quoted rest).2) := by
  rw [quoted]

theorem quoted_quote {rest : List Char} (h : rest.head? ≠ some '\'') :
    quoted ('\'' :: rest) = ([], rest) := by
  cases rest with
  | nil => rw [quoted]
  | cons c rest =>
    rw [quoted]
    · simp
    · simp
    · intro rest' _ heq
      rw [heq] at h
      exact h rfl

theorem quoted_of_ne {c : Char} (h : c ≠ '\'') (rest : List Char) :
    quoted (c :: rest) = (c :: (quoted rest).1, (quoted rest).2) := by
  rw [quoted, if_neg h]
  · exact fun heq _ ↦ h heq
  · exact fun _ heq _ ↦ h heq

theorem quoted_doubled (text : List Char) : quoted (doubled text) = (text, []) := by
  induction text with
  | nil => rfl
  | cons c text ih =>
    rw [doubled_cons]
    split
    · rename_i hc
      rw [hc, List.cons_append, List.singleton_append, quoted_quote_quote, ih]
    · rw [List.singleton_append, quoted_of_ne ‹_›, ih]

theorem quoted_doubled_append (text : List Char) {rest : List Char}
    (h : rest.head? ≠ some '\'') : quoted (doubled text ++ '\'' :: rest) = (text, rest) := by
  induction text with
  | nil => exact quoted_quote h
  | cons c text ih =>
    rw [doubled_cons]
    split
    · rename_i hc
      rw [hc, List.cons_append, List.singleton_append, List.cons_append, List.cons_append,
        quoted_quote_quote, ih]
    · rw [List.singleton_append, List.cons_append, quoted_of_ne ‹_›, ih]

/-- What has been opened is closed by a quote that no other follows, or is not closed. -/
theorem quoted_cases (s : List Char) :
    (s = doubled (quoted s).1 ∧ (quoted s).2 = []) ∨
      s = doubled (quoted s).1 ++ '\'' :: (quoted s).2 ∧ (quoted s).2.head? ≠ some '\'' := by
  fun_induction quoted s with
  | case1 => exact .inl ⟨rfl, rfl⟩
  | case2 => exact .inr ⟨rfl, by simp⟩
  | case3 rest text rest' hquoted ih =>
    rw [hquoted] at ih
    rcases ih with ⟨rfl, hrest⟩ | ⟨rfl, hend⟩
    · exact .inl ⟨rfl, hrest⟩
    · exact .inr ⟨rfl, hend⟩
  | case4 rest hnil hquote =>
    refine .inr ⟨rfl, fun hhead ↦ ?_⟩
    obtain ⟨rest', rfl⟩ := List.head?_eq_some_iff.1 hhead
    exact hquote rest' rfl rfl
  | case5 c rest hnil hquote hc text rest' hquoted ih =>
    rw [hquoted] at ih
    dsimp only at ih ⊢
    rw [doubled_cons, if_neg hc]
    rcases ih with ⟨rfl, hrest⟩ | ⟨rfl, hend⟩
    · exact .inl ⟨rfl, hrest⟩
    · exact .inr ⟨rfl, hend⟩

theorem head?_doubled (text : List Char) : (doubled text).head? = text.head? := by
  cases text with
  | nil => rfl
  | cons c text =>
    rw [doubled_cons]
    split
    · exact congrArg some (Eq.symm ‹_›)
    · rfl

theorem head?_doubled_append {text : List Char} (h : text ≠ []) (rest : List Char) :
    (doubled text ++ rest).head? = text.head? := by
  rw [List.head?_append, head?_doubled]
  obtain ⟨c, text, rfl⟩ := List.exists_cons_of_ne_nil h
  rfl

/-! ## One letter, or none -/

theorem pieces_quote_quote (rest : List Char) :
    pieces ('\'' :: '\'' :: rest) = .text ['\''] :: pieces rest := by
  rw [pieces]

theorem pieces_quote {rest : List Char} (h : rest.head? ≠ some '\'') :
    pieces ('\'' :: rest) = .text (quoted rest).1 :: pieces (quoted rest).2 := by
  rw [pieces, if_pos rfl]
  rintro rest' - rfl
  exact h rfl

theorem pieces_letter {letter : Char} (hletter : letter.isAlpha) (rest : List Char) :
    pieces (letter :: rest) = .run letter ((rest.takeWhile (· = letter)).length + 1) ::
      pieces (rest.drop (rest.takeWhile (· = letter)).length) := by
  have hquote : letter ≠ '\'' := by
    rintro rfl
    exact absurd hletter (by decide)
  rw [pieces, if_neg hquote, if_pos hletter]
  exact fun _ heq _ ↦ hquote heq

theorem pieces_other {c : Char} (hquote : c ≠ '\'') (hletter : ¬c.isAlpha) (rest : List Char) :
    pieces (c :: rest) = .text [c] :: pieces rest := by
  rw [pieces, if_neg hquote, if_neg hletter]
  exact fun _ heq _ ↦ hquote heq

/-! ## Every pattern has its pieces -/

/-- A run is as long as it can be. -/
theorem takeWhile_replicate_append {c : Char} {rest : List Char} (h : rest.head? ≠ some c)
    (n : Nat) : (List.replicate n c ++ rest).takeWhile (· = c) = List.replicate n c := by
  have hrest : rest.takeWhile (· = c) = [] := by
    cases rest with
    | nil => rfl
    | cons d rest => simpa using h
  rw [List.takeWhile_append_of_pos (by simp), hrest, List.append_nil]

theorem Splits.eq_pieces {s : List Char} {ps : List Piece} (h : Splits s ps) : ps = pieces s := by
  induction h with
  | nil => rw [pieces]
  | @run letter count rest ps hletter hcount hend h ih =>
    obtain ⟨n, rfl⟩ := Nat.exists_eq_succ_of_ne_zero (Nat.ne_of_gt hcount)
    rw [List.replicate_succ, List.cons_append, pieces_letter hletter,
      takeWhile_replicate_append hend, List.length_replicate, List.drop_left' List.length_replicate,
      ih]
  | quote h ih => rw [pieces_quote_quote, ih]
  | @quoted text rest ps hsome hbegin hend h ih =>
    rw [List.cons_append, pieces_quote, quoted_doubled_append text hend, ih]
    rwa [head?_doubled_append hsome]
  | @unclosed text hbegin => rw [pieces_quote (by rwa [head?_doubled]), quoted_doubled, pieces]
  | other hquote hletter h ih => rw [pieces_other hquote hletter, ih]

/-- Quotes that are opened begin a piece. -/
theorem splits_of_quoted {rest : List Char} (hrest : rest.head? ≠ some '\'')
    (h : Splits (quoted rest).2 (pieces (quoted rest).2)) :
    Splits ('\'' :: rest) (.text (quoted rest).1 :: pieces (quoted rest).2) := by
  rcases quoted_cases rest with ⟨htext, hnil⟩ | ⟨htext, hend⟩
  · have hbegin : (quoted rest).1.head? ≠ some '\'' := by
      rwa [← head?_doubled, ← htext]
    have hsplits := Splits.unclosed hbegin
    rw [hnil, pieces]
    rwa [← htext] at hsplits
  · have hsome : (quoted rest).1 ≠ [] := by
      intro hnil
      rw [hnil] at htext
      rw [htext] at hrest
      exact hrest rfl
    have hbegin : (quoted rest).1.head? ≠ some '\'' := by
      rw [htext] at hrest
      rwa [head?_doubled_append hsome] at hrest
    have hsplits := Splits.quoted hsome hbegin hend h
    rwa [List.cons_append, ← htext] at hsplits

theorem splits_of_run {c : Char} {rest : List Char} (hletter : c.isAlpha)
    (h : Splits (rest.drop (rest.takeWhile (· = c)).length)
      (pieces (rest.drop (rest.takeWhile (· = c)).length))) :
    Splits (c :: rest) (.run c ((rest.takeWhile (· = c)).length + 1) ::
      pieces (rest.drop (rest.takeWhile (· = c)).length)) := by
  have hrun : rest.takeWhile (· = c) = List.replicate (rest.takeWhile (· = c)).length c :=
    List.eq_replicate_iff.2 ⟨rfl, fun d hd ↦ by simpa using List.mem_takeWhile_imp hd⟩
  have hdrop : rest.drop (rest.takeWhile (· = c)).length = rest.dropWhile (· = c) := by
    have happend := List.prefix_iff_eq_append.1 (List.takeWhile_prefix (l := rest) (· = c))
    exact List.append_cancel_left (happend.trans List.takeWhile_append_dropWhile.symm)
  have hend : (rest.dropWhile (· = c)).head? ≠ some c := by
    intro hhead
    have hnot := List.head?_dropWhile_not (· = c) rest
    rw [hhead] at hnot
    simp at hnot
  rw [hdrop] at h ⊢
  have hsplits := Splits.run hletter (Nat.succ_pos (rest.takeWhile (· = c)).length) hend h
  rwa [List.replicate_succ, ← hrun, List.cons_append, List.takeWhile_append_dropWhile] at hsplits

theorem splits_pieces (s : List Char) : Splits s (pieces s) := by
  fun_induction pieces s with
  | case1 => exact .nil
  | case2 rest ih => exact .quote ih
  | case3 rest hquote ih =>
    refine splits_of_quoted (fun hhead ↦ ?_) ih
    obtain ⟨rest', rfl⟩ := List.head?_eq_some_iff.1 hhead
    exact hquote rest' rfl rfl
  | case4 c rest hquote hc hletter count ih => exact splits_of_run hletter ih
  | case5 c rest hquote hc hletter ih => exact .other hc hletter ih

/-- **Every pattern has pieces, and has no others.** -/
theorem splits_iff {s : List Char} {ps : List Piece} : Splits s ps ↔ ps = pieces s :=
  ⟨Splits.eq_pieces, fun h ↦ h ▸ splits_pieces s⟩

/-- The parts of a pattern are those of its pieces. -/
theorem items_eq_flatMap_pieces (s : List Char) : items s = (pieces s).flatMap Piece.items := by
  fun_induction pieces s with
  | case1 => rw [items]; rfl
  | case2 rest ih => rw [items, ih]; rfl
  | case3 rest hquote ih =>
    rw [items, if_pos rfl, ih]
    · rfl
    · exact hquote
  | case4 c rest hquote hc hletter count ih =>
    rw [items, if_neg hc, if_pos hletter]
    · dsimp only
      rw [ih]
      rfl
    · exact hquote
  | case5 c rest hquote hc hletter ih =>
    rw [items, if_neg hc, if_neg hletter, ih]
    · rfl
    · exact hquote

/-! ## Writing the template -/

/-- The code of the field that a run stands for, or nothing. -/
def runText (letter : Char) (count : Nat) : List Char :=
  ((DateField.ofRun letter count).map fun f ↦ '%' :: f.code.toList).getD []

/-- A character that stands for itself. -/
def literalText (c : Char) : List Char := if c = '%' then ['%', '%'] else [c]

mutual

/-- The template of what is left of a pattern, outside of quotes. -/
def scan : List Char → List Char
  | [] => []
  | '\'' :: '\'' :: rest => '\'' :: scan rest
  | c :: rest =>
    if c = '\'' then scanQuoted rest
    else if c.isAlpha then scanRun c 1 rest
    else literalText c ++ scan rest
termination_by s => (s.length, 0)

/-- The template of what is left of a pattern, after a quote that has been opened. -/
def scanQuoted : List Char → List Char
  | [] => []
  | '\'' :: '\'' :: rest => '\'' :: scanQuoted rest
  | c :: rest => if c = '\'' then scan rest else literalText c ++ scanQuoted rest
termination_by s => (s.length, 0)

/-- The template of what is left of a pattern, after a letter that has come some times. -/
def scanRun (letter : Char) (count : Nat) : List Char → List Char
  | [] => runText letter count
  | c :: rest =>
    if c = letter then scanRun letter (count + 1) rest
    else runText letter count ++ scan (c :: rest)
termination_by s => (s.length, 1)

end

theorem flatMap_itemText_literal (text : List Char) :
    (text.map DateItem.literal).flatMap itemText = text.flatMap literalText := by
  rw [List.flatMap_map]
  rfl

/-- What has been opened is written as it stands for itself, up to its end. -/
theorem scanQuoted_eq (s : List Char) :
    scanQuoted s = (quoted s).1.flatMap literalText ++ scan (quoted s).2 := by
  fun_induction quoted s with
  | case1 => rw [scanQuoted, scan]; rfl
  | case2 =>
    rw [scanQuoted, if_pos rfl]
    · rfl
    · simp
  | case3 rest text rest' hquoted ih =>
    rw [scanQuoted, ih, hquoted]
    rfl
  | case4 rest hnil hquote =>
    rw [scanQuoted, if_pos rfl]
    · rfl
    · exact hquote
  | case5 c rest hnil hquote hc text rest' hquoted ih =>
    rw [scanQuoted, if_neg hc, ih, hquoted]
    · rw [List.flatMap_cons, List.append_assoc]
    · exact hquote

/-- A run is written when it has come to its end. -/
theorem scanRun_eq (letter : Char) (count : Nat) (s : List Char) :
    scanRun letter count s = runText letter (count + (s.takeWhile (· = letter)).length) ++
      scan (s.drop (s.takeWhile (· = letter)).length) := by
  induction s generalizing count with
  | nil =>
    rw [scanRun, List.takeWhile_nil, List.drop_nil, scan, List.append_nil]
    rfl
  | cons c s ih =>
    rw [scanRun, List.takeWhile_cons]
    by_cases hc : c = letter
    · rw [if_pos hc, if_pos (decide_eq_true hc), ih, List.length_cons, List.drop_succ_cons,
        Nat.add_right_comm]
      rfl
    · rw [if_neg hc, if_neg (by simpa using hc)]
      rfl

/-- **The template is written while the pattern is gone through once.** -/
theorem scan_eq (s : List Char) : scan s = (items s).flatMap itemText := by
  rw [items_eq_flatMap_pieces]
  fun_induction pieces s with
  | case1 => rw [scan]; rfl
  | case2 rest ih => rw [scan, ih]; rfl
  | case3 rest hquote ih =>
    rw [scan, if_pos rfl, scanQuoted_eq, ih, List.flatMap_cons, List.flatMap_append, Piece.items,
      flatMap_itemText_literal]
    exact hquote
  | case4 c rest hquote hc hletter count ih =>
    have hrun : runText c (1 + count) = (Piece.run c (count + 1)).items.flatMap itemText := by
      rw [Nat.add_comm, runText, Piece.items]
      cases DateField.ofRun c (count + 1) with
      | none => rfl
      | some f => exact (List.append_nil _).symm
    rw [scan, if_neg hc, if_pos hletter, scanRun_eq, ih, hrun, List.flatMap_cons,
      List.flatMap_append]
    exact hquote
  | case5 c rest hquote hc hletter ih =>
    rw [scan, if_neg hc, if_neg hletter, ih, List.flatMap_cons, List.flatMap_append, Piece.items,
      flatMap_itemText_literal, List.flatMap_singleton]
    exact hquote

end Pattern

/-! ## Reading the template -/

namespace Template

open Pattern

/-- A part that has been written is read, whatever follows it. -/
theorem items?_itemText_append (i : DateItem) (rest : List Char) :
    items? (itemText i ++ rest) = (items? rest).map (i :: ·) := by
  cases i with
  | field f => cases f <;> rfl
  | literal c =>
    rw [itemText]
    split
    · rename_i hc
      rw [hc]
      rfl
    · rw [List.singleton_append, items?]
      -- no other form of a part begins with this character
      all_goals intros; exact absurd ‹c = '%'› ‹¬c = '%'›

/-- **A template can be read in one way only.** -/
theorem items?_flatMap_itemText (is : List DateItem) :
    items? (is.flatMap itemText) = some is := by
  induction is with
  | nil => rfl
  | cons i is ih => rw [List.flatMap_cons, items?_itemText_append, ih]; rfl

theorem flatMap_itemText_inj {is js : List DateItem} :
    is.flatMap itemText = js.flatMap itemText ↔ is = js := by
  refine ⟨fun h ↦ ?_, congrArg _⟩
  rw [← Option.some_inj, ← items?_flatMap_itemText, h, items?_flatMap_itemText]

end Template

/-! ## There and back -/

/-- The field that a part is, if it is one. -/
def DateItem.field? : DateItem → Option DateField
  | field f => some f
  | literal _ => none

/-- The character that a part is, if it is one. -/
def DateItem.literal? : DateItem → Option Char
  | field _ => none
  | literal c => some c

namespace Pattern

/-- The field that a piece is, if it is a run of one. -/
def Piece.field? : Piece → Option DateField
  | run letter count => DateField.ofRun letter count
  | text _ => none

/-- The characters that a piece stands for, if it stands for itself. -/
def Piece.chars : Piece → List Char
  | run _ _ => []
  | text chars => chars

theorem filterMap_field?_items (ps : List Piece) :
    (ps.flatMap Piece.items).filterMap DateItem.field? = ps.filterMap Piece.field? := by
  induction ps with
  | nil => rfl
  | cons p ps ih =>
    rw [List.flatMap_cons, List.filterMap_append, ih, List.filterMap_cons]
    cases p with
    | run letter count =>
      rw [Piece.items, Piece.field?]
      cases DateField.ofRun letter count <;> rfl
    | text chars =>
      rw [Piece.items, Piece.field?, List.filterMap_map]
      simp [Function.comp_def, DateItem.field?]

theorem filterMap_literal?_items (ps : List Piece) :
    (ps.flatMap Piece.items).filterMap DateItem.literal? = ps.flatMap Piece.chars := by
  induction ps with
  | nil => rfl
  | cons p ps ih =>
    rw [List.flatMap_cons, List.filterMap_append, ih, List.flatMap_cons]
    cases p with
    | run letter count =>
      rw [Piece.items, Piece.chars]
      cases DateField.ofRun letter count <;> rfl
    | text chars =>
      rw [Piece.items, Piece.chars, List.filterMap_map]
      simp [Function.comp_def, DateItem.literal?]

end Pattern

/-- **A pattern is put into another notation, and nothing else.**

1. Every pattern has pieces, and no others; its template is written while it is gone through once.
2. What is read in the template are the parts of the pieces, in their order, and a template that
   spells other parts is another one.
3. So its fields are those of the runs of a letter, and what stands for itself in it stands for
   itself in the pattern, whatever signs there are. -/
theorem Pattern.readBack (pattern : String) :
    ∃ ps : List Piece, (∀ qs, Splits pattern.toList qs ↔ qs = ps) ∧
      template pattern = String.ofList (scan pattern.toList) ∧
      (∃ is, Template.items? (template pattern).toList = some is ∧ is = ps.flatMap Piece.items ∧
        (∀ js : List DateItem, js.flatMap itemText = (template pattern).toList ↔ js = is) ∧
        is.filterMap DateItem.field? = ps.filterMap Piece.field? ∧
        is.filterMap DateItem.literal? = ps.flatMap Piece.chars) := by
  have htemplate : (template pattern).toList = (items pattern.toList).flatMap itemText := by
    rw [template, String.toList_ofList]
  have hread : Template.items? (template pattern).toList = some (items pattern.toList) := by
    rw [htemplate, Template.items?_flatMap_itemText]
  refine ⟨pieces pattern.toList, fun qs ↦ splits_iff, ?_, items pattern.toList, hread,
    items_eq_flatMap_pieces _, fun js ↦ ?_, ?_, ?_⟩
  · rw [template, scan_eq]
  · rw [htemplate, Template.flatMap_itemText_inj]
  · rw [items_eq_flatMap_pieces, filterMap_field?_items]
  · rw [items_eq_flatMap_pieces, filterMap_literal?_items]

end SourceHost
