import Mathlib.Algebra.BigOperators.Group.List.Lemmas
import Mathlib.Algebra.GroupWithZero.Nat
import Mathlib.Data.List.Induction
import ViewPoints.CommandLine.Summary
import ViewPoints.Proofs.SortedMap

/-!
The sections of a summary on view points and diagnostics, line by line. View points are counted by
their labels, which stand in the byte order.
-/

namespace ViewPoints.CommandLine

open Block (unlines_append unlines_singleton)

/-! ### View points by their labels -/

/-- The labels of view points, each with the number of those that have it. -/
structure Tallies (l : List ViewPoint) (entries : List (String × ℕ)) : Prop where
  ascending : Ascending (entries.map Prod.fst)
  labels : ∀ label, label ∈ entries.map Prod.fst ↔ ∃ v ∈ l, v.kind.label = label
  counts : ∀ e ∈ entries, e.2 = l.countP fun v => v.kind.label = e.1
  total : (entries.map Prod.snd).sum = l.length

variable {l : List ViewPoint} {label : String}

lemma tally_concat (l : List ViewPoint) (v : ViewPoint) :
    tally (l ++ [v]) = (tally l).alter v.kind.label fun n => n.getD 0 + 1 := by
  rw [tally, List.foldl_append]
  rfl

lemma getD_tally (l : List ViewPoint) (label : String) :
    ((tally l).get? label).getD 0 = l.countP fun v => v.kind.label = label := by
  induction l using List.reverseRecOn with
  | nil => rfl
  | append_singleton l v ih =>
    rw [tally_concat, SortedMap.get?_alter, List.countP_append, List.countP_singleton]
    by_cases h : label = v.kind.label
    · rw [if_pos h, if_pos (by simp [h]), ← ih, h]
      rfl
    · rw [if_neg h, if_neg (by simp [Ne.symm h]), ih, Nat.add_zero]

lemma mem_keys_tally : label ∈ (tally l).keys ↔ ∃ v ∈ l, v.kind.label = label := by
  induction l using List.reverseRecOn with
  | nil => simp [tally]
  | append_singleton l v ih =>
    rw [tally_concat, SortedMap.alter, SortedMap.mem_keys_insert, ih]
    simp [or_and_right, exists_or, eq_comm, or_comm]

lemma counts_tally (l : List ViewPoint) :
    ∀ e ∈ (tally l).entries, e.2 = l.countP fun v => v.kind.label = e.1 := by
  rintro ⟨label, n⟩ he
  rw [← getD_tally, SortedMap.mem_entries_iff.1 he]
  rfl

/-- Every view point is counted under one label. -/
lemma sum_tally (l : List ViewPoint) : ((tally l).entries.map Prod.snd).sum = l.length := by
  have hcounts : (tally l).entries.map Prod.snd =
      (tally l).keys.map fun label => (l.map fun v => v.kind.label).count label := by
    rw [SortedMap.keys, List.map_map]
    refine List.map_congr_left fun e he => ?_
    rw [counts_tally l e he, Function.comp_apply, List.count, List.countP_map]
    rfl
  -- the keys are the labels, each of them once
  have hperm : (tally l).keys.Perm (l.map fun v => v.kind.label).dedup := by
    rw [List.perm_ext_iff_of_nodup (SortedMap.nodup_keys _) (List.nodup_dedup _)]
    intro label
    rw [mem_keys_tally, List.mem_dedup, List.mem_map]
  rw [hcounts, (hperm.map _).sum_eq, List.sum_map_count_dedup_eq_length, List.length_map]

lemma tallies_tally (l : List ViewPoint) : Tallies l (tally l).entries where
  ascending := SortedMap.ascending_keys _
  labels _ := mem_keys_tally
  counts := counts_tally l
  total := sum_tally l

/-! ### Lines -/

/-- A text in a style, if there is colour. -/
def painted (color : Bool) (style : Style) (s : String) : String :=
  if color then style.code ++ s ++ resetCode else s

def heading (color : Bool) (s : String) : List String := ["", painted color .gray s]

/-- A number in decimal digits, with blanks in front of it up to five characters. -/
def column (n : ℕ) : String := .ofList (List.leftpad 5 ' ' (Nat.toDigits 10 n))

/-- A number and what it counts. The blanks are painted with the digits. -/
def counted (color : Bool) (number : Style) (n : ℕ) (noun : Style) (s : String) : String :=
  "  " ++ painted color number (column n) ++ " " ++ painted color noun s

def viewPointSection (color : Bool) (entries : List (String × ℕ)) (total : ℕ) : List String :=
  heading color "━━━ View Points ━━━" ++
    (if entries = [] then [painted color .dim "  No view points produced"]
    else entries.map fun e => counted color .yellow e.2 .blue e.1) ++
    [counted color .bold total .dim "total"]

def diagnosticSection (color : Bool) (messages : List String) : List String :=
  if messages = [] then []
  else heading color "━━━ Diagnostics ━━━" ++
    messages.map fun message => "  " ++ painted color .yellow "•" ++ " " ++ message

/-- What stands in a summary before its section of view points. -/
def opening (output : String) (c : Conversion) : List Piece :=
  plain "\n" ++ [{ text := "⚙  Wrote: " ++ output, styles := [.cyan, .bold] }] ++ endLine ++
    contextLines c.document.context

variable {color : Bool}

@[simp] lemma render_plain (s : String) : render color (plain s) = s := by
  cases color <;> simp [render, plain, Piece.render]

@[simp] lemma render_styled (style : Style) (s : String) :
    render color (styled style s) = painted color style s := by
  cases color <;> simp [render, styled, Piece.render, painted]

/-- Pieces that make a line each are lines. -/
lemma render_flatMap {α : Type} {f : α → List Piece} {g : α → String}
    (h : ∀ a, render color (f a) = g a ++ "\n") (l : List α) :
    render color (l.flatMap f) = Block.unlines (l.map g) := by
  induction l with
  | nil => rfl
  | cons a l ih =>
    rw [List.flatMap_cons, render_append, h, ih, List.map_cons, Block.unlines, Block.unlines,
      List.map_cons, String.join_cons]

lemma render_title (s : String) : render color (title s) = Block.unlines (heading color s) := by
  simp [title, endLine, heading, render_append, Block.unlines]

lemma countText_eq (n : ℕ) : countText n = column n := by
  rw [countText, padLeft, column, List.leftpad, ← String.length_toList, Nat.toList_repr]

lemma render_countLine (e : String × ℕ) :
    render color (countLine e) = counted color .yellow e.2 .blue e.1 ++ "\n" := by
  simp [countLine, countText_eq, counted, endLine, render_append, String.append_assoc]

lemma render_diagnosticLine (d : Diagnostic) : render color (diagnosticLine d) =
    "  " ++ painted color .yellow "•" ++ " " ++ d.message ++ "\n" := by
  simp [diagnosticLine, endLine, render_append, String.append_assoc]

/-- There are no entries only if there is nothing to be counted. -/
lemma entries_tally_eq_nil_iff : (tally l).entries = [] ↔ l = [] := by
  rw [← List.map_eq_nil_iff, List.eq_nil_iff_forall_not_mem, List.eq_nil_iff_forall_not_mem]
  constructor
  · exact fun h v hv => h v.kind.label (mem_keys_tally.2 ⟨v, hv, rfl⟩)
  · intro h label hl
    obtain ⟨v, hv, -⟩ := mem_keys_tally.1 hl
    exact h v hv

lemma render_viewPointLines (l : List ViewPoint) :
    render color (viewPointLines l) =
      Block.unlines (viewPointSection color (tally l).entries l.length) := by
  have hmiddle : render color
      (if l.isEmpty then styled .dim "  No view points produced" ++ endLine
        else (tally l).entries.flatMap countLine) =
      Block.unlines (if (tally l).entries = [] then [painted color .dim "  No view points produced"]
        else (tally l).entries.map fun e => counted color .yellow e.2 .blue e.1) := by
    by_cases h : l = []
    · rw [if_pos (List.isEmpty_iff.2 h), if_pos (entries_tally_eq_nil_iff.2 h), render_append,
        render_styled, unlines_singleton, endLine, render_plain]
    · rw [if_neg (mt List.isEmpty_iff.1 h), if_neg (mt entries_tally_eq_nil_iff.1 h)]
      exact render_flatMap render_countLine _
  have htotal : render color (plain "  " ++ styled .bold (countText l.length) ++ plain " " ++
      styled .dim "total" ++ endLine) =
      Block.unlines [counted color .bold l.length .dim "total"] := by
    simp [countText_eq, counted, endLine, render_append, unlines_singleton, String.append_assoc]
  rw [viewPointSection, unlines_append, unlines_append, ← hmiddle, ← htotal, ← render_title,
    ← render_append, ← render_append]
  simp only [viewPointLines, List.append_assoc]

lemma render_diagnosticLines (l : List Diagnostic) :
    render color (diagnosticLines l) =
      Block.unlines (diagnosticSection color (l.map Diagnostic.message)) := by
  rw [diagnosticLines, diagnosticSection]
  by_cases h : l = []
  · rw [if_pos (List.isEmpty_iff.2 h), if_pos (List.map_eq_nil_iff.2 h)]
    rfl
  · rw [if_neg (mt List.isEmpty_iff.1 h), if_neg (mt List.map_eq_nil_iff.1 h), unlines_append,
      render_append, render_title, render_flatMap render_diagnosticLine, List.map_map]
    rfl

/-- The end of a summary, line by line. -/
lemma render_summary (output : String) (c : Conversion) :
    render color (summary output c) = render color (opening output c) ++ Block.unlines
      (viewPointSection color (tally c.document.viewPoints.toList).entries
          c.document.viewPoints.toList.length ++
        diagnosticSection color (c.diagnostics.toList.map Diagnostic.message) ++ [""]) := by
  rw [unlines_append, unlines_append, ← render_viewPointLines, ← render_diagnosticLines,
    unlines_singleton, String.empty_append, ← String.append_assoc, ← String.append_assoc, summary,
    render_append, render_append, render_append, endLine, render_plain]
  rfl

end ViewPoints.CommandLine
