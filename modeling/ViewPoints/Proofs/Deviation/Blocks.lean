import ViewPoints.Deviation.Kind
import ViewPoints.Proofs.Pattern.Search

/-!
Blocks that open with a header in its usual form, a type and a qualifier behind the number.
-/

namespace ViewPoints

open Pattern

/-- A header in its usual form. -/
def headerLine (number kind qualifier : String) : String :=
  "DEV #" ++ number ++ ": " ++ kind ++ " " ++ qualifier

/-- The block that a header in its usual form opens, with the lines behind it. -/
def Block.under (id : Nat) (number kind qualifier : String) (following : List String) : Block where
  header := Header.read? id (headerLine number kind qualifier)
  opening := headerLine number kind qualifier
  following := following

variable {number kind qualifier : String} {id : Nat}

lemma toList_headerLine (number kind qualifier : String) :
    (headerLine number kind qualifier).toList = "DEV #".toList ++ (number.toList ++
      (": ".toList ++ (kind.toList ++ (' ' :: qualifier.toList)))) := by
  unfold headerLine
  rw [String.toList_append, String.toList_append, String.toList_append, String.toList_append,
    String.toList_append]
  simp only [List.append_assoc]
  rfl

lemma Header.read?_headerLine (id : Nat) (hn : Text.OfClass Text.isDigit number.toList)
    (hk : Text.OfClass Text.isSolid kind.toList)
    (hq : Text.OfClass Text.isSolid qualifier.toList) :
    read? id (headerLine number kind qualifier) = some ⟨id, number, kind, qualifier⟩ := by
  obtain ⟨c, hc, hsolid⟩ := hk.exists_head
  obtain ⟨d, hd, hsolid'⟩ := hq.exists_head
  have hkind (t : List Char) : (kind.toList ++ t).head? = some c :=
    (List.head?_append_of_ne_nil _ hk.1).trans hc
  have hqualifier (t : List Char) : (qualifier.toList ++ t).head? = some d :=
    (List.head?_append_of_ne_nil _ hq.1).trans hd
  have hstop (t : List Char) : ∀ x ∈ (' ' :: t).head?, Text.isSolid x = false := by
    rintro x ⟨⟩
    decide
  have htext : (headerLine number kind qualifier).toList = "DEV".toList ++ (' ' :: ("#".toList ++
      (number.toList ++ (":".toList ++ (' ' :: (kind.toList ++
        (' ' :: (qualifier.toList ++ [])))))))) := by
    rw [toList_headerLine, List.append_nil]
    rfl
  have h : Reads phrase (headerLine number kind qualifier).toList [number, kind, qualifier] [] := by
    rw [htext]
    exact reads_lit "DEV" _ |>.space rfl |>.lit "#" |>.upTo hn |>.lit ":"
      |>.space (hkind _) (Text.isBlank_of_isSolid hsolid) |>.group hk (hstop _)
      |>.space (hqualifier _) (Text.isBlank_of_isSolid hsolid') |>.group hq (by simp)
  rw [read?, h.readFront_eq]

/-- What the body mentions makes no difference where the header names the kind. -/
lemma DeviationKind.ofBlock?_eq {h : Header} {b : Block} {kind : DeviationKind}
    (hk : ofKey? h.key = some kind) : ofBlock? h b = some kind := by
  rw [ofBlock?, hk]

lemma Block.toList_text_under (id : Nat) (number kind qualifier : String)
    (following : List String) :
    (under id number kind qualifier following).text.toList = "DEV #".toList ++ (number.toList ++
      (": ".toList ++ (kind.toList ++ (' ' :: (qualifier.toList ++
        ('\n' :: (unlines following).toList)))))) := by
  have h := toList_unlines_cons (headerLine number kind qualifier) following
  rw [toList_headerLine] at h
  simp only [List.append_assoc, List.cons_append] at h
  exact h

end ViewPoints
