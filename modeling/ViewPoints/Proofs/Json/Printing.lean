import ViewPoints.Json.Printer
import ViewPoints.Proofs.Json.Grammar

/-!
What the printer writes is a text of the value written, in any layout whose blanks are gaps.
-/

namespace ViewPoints.Json

/-- A value that can be written: its numbers are spelled as such, and no object in it has two
members of one name. -/
inductive WellFormed : Json → Prop where
  | null : WellFormed null
  | bool (b : Bool) : WellFormed (bool b)
  | num {literal : String} (h : Number literal.toList) : WellFormed (num literal)
  | str (s : String) : WellFormed (str s)
  | arr {items : List Json} (h : ∀ j ∈ items, WellFormed j) : WellFormed (arr items)
  | obj {members : List (String × Json)} (hk : (members.map Prod.fst).Nodup)
    (h : ∀ m ∈ members, WellFormed m.2) : WellFormed (obj members)

/-- A layout that writes nothing but gaps between tokens. -/
structure Style.Spaced (style : Style) : Prop where
  lineBreak : ∀ depth, Gap (style.lineBreak depth)
  gap : Gap style.gap

lemma gap_nil : Gap [] := List.forall_mem_nil _

lemma spaced_compact : Style.compact.Spaced where
  lineBreak _ := gap_nil
  gap := gap_nil

lemma spaced_pretty : Style.pretty.Spaced where
  lineBreak depth := by
    intro c hc
    simp only [Style.pretty, List.mem_cons, List.mem_replicate] at hc
    rcases hc with rfl | ⟨-, rfl⟩ <;> rfl
  gap := by
    intro c hc
    obtain rfl := List.mem_singleton.1 hc
    rfl

/-! ### Strings -/

lemma hexUnit?_control : ∀ n < 0x20,
    hexUnit? '0' '0' (hexDigit (n / 16)) (hexDigit n) = some n := by
  decide

lemma chars_escape (c : Char) {s cs : List Char} (h : Chars s cs) :
    Chars (escape c ++ s) (c :: cs) := by
  unfold escape
  split_ifs with hq hb hn hr ht hbs hff hc
  case pos => subst hq; exact .short (by decide) h
  case pos => subst hb; exact .short (by decide) h
  case pos => subst hn; exact .short (by decide) h
  case pos => subst hr; exact .short (by decide) h
  case pos => subst ht; exact .short (by decide) h
  case pos => subst hbs; exact .short (by decide) h
  case pos => subst hff; exact .short (by decide) h
  case pos =>
    -- a control character is far below the halves of pairs
    have hh : isHighHalf c.toNat = false := by
      rw [isHighHalf, decide_eq_false (by omega)]
      rfl
    have hl : isLowHalf c.toNat = false := by
      rw [isLowHalf, decide_eq_false (by omega)]
      rfl
    have hu := Chars.unit (hexUnit?_control c.toNat hc) hh hl h
    rwa [Char.ofNat_toNat] at hu
  case neg => exact .plain hq hb (Nat.le_of_not_lt hc) h

lemma chars_flatMap_escape (cs : List Char) : Chars (cs.flatMap escape) cs := by
  induction cs with
  | nil => exact .nil
  | cons c cs ih => exact chars_escape c ih

/-! ### Values -/

variable {style : Style}

/-- Items that are written one behind the other. -/
lemma spells_items (hs : style.Spaced) {depth : Nat} {v : List Char} (hv : Gap v) {j : Json}
    {js : List Json} (h : ∀ i ∈ j :: js, Spells (.value i) (write style depth i)) :
    Spells (.items (j :: js))
      (style.lineBreak depth ++ write style depth j ++ writeItems style depth js ++ v) := by
  have hb := hs.lineBreak depth
  induction js generalizing j with
  | nil =>
    rw [writeItems, List.append_nil]
    exact .lastItem (.spaced hb (h j List.mem_cons_self) hv)
  | cons i js ih =>
    have ht := ih fun k hk => h k (List.mem_cons_of_mem j hk)
    have hj := Spells.spaced hb (h j List.mem_cons_self) gap_nil
    simpa [writeItems] using hj.item ht

lemma spells_member (hs : style.Spaced) {depth : Nat} {v : List Char} (hv : Gap v)
    {m : String × Json} (h : Spells (.value m.2) (write style depth m.2)) :
    Spells (.member m) (style.lineBreak depth ++ writeMember style depth m ++ v) := by
  obtain ⟨key, j⟩ := m
  have hk := chars_flatMap_escape key.toList
  have hm := Spells.member (hs.lineBreak depth) hk gap_nil (.spaced hs.gap h hv)
  rw [String.ofList_toList] at hm
  simpa [writeMember, quoted] using hm

/-- Members that are written one behind the other. -/
lemma spells_members (hs : style.Spaced) {depth : Nat} {v : List Char} (hv : Gap v)
    {m : String × Json} {ms : List (String × Json)}
    (h : ∀ n ∈ m :: ms, Spells (.value n.2) (write style depth n.2)) :
    Spells (.members (m :: ms))
      (style.lineBreak depth ++ writeMember style depth m ++ writeMembers style depth ms ++ v) := by
  induction ms generalizing m with
  | nil =>
    rw [writeMembers, List.append_nil]
    exact .lastMember (spells_member hs hv (h m List.mem_cons_self))
  | cons n ms ih =>
    have ht := ih fun k hk => h k (List.mem_cons_of_mem m hk)
    have hm := spells_member hs gap_nil (h m List.mem_cons_self)
    simpa [writeMembers] using hm.consMember ht

/-- What is written is a text of the value. -/
theorem spells_write (hs : style.Spaced) {j : Json} (h : WellFormed j) (depth : Nat) :
    Spells (.value j) (write style depth j) := by
  induction h generalizing depth with
  | null => exact .null
  | bool b =>
    cases b
    · exact .no
    · exact .yes
  | @num literal h =>
    have hl := Spells.num h
    rwa [String.ofList_toList] at hl
  | str s =>
    have hl := Spells.str (chars_flatMap_escape s.toList)
    rwa [String.ofList_toList] at hl
  | @arr items h ih =>
    cases items with
    | nil => exact .emptyArray gap_nil
    | cons j js =>
      have hi := spells_items hs (hs.lineBreak depth) fun i hi => ih i hi (depth + 1)
      simpa [write] using hi.array
  | @obj members hk h ih =>
    cases members with
    | nil => exact .emptyObject gap_nil
    | cons m ms =>
      have hm := spells_members hs (hs.lineBreak depth) fun n hn => ih n hn (depth + 1)
      simpa [write] using hm.object

lemma denotes_write (hs : style.Spaced) {j : Json} (h : WellFormed j) :
    Denotes (.ofList (write style 0 j)) j := by
  have hw := Spells.spaced gap_nil (spells_write hs h 0) gap_nil
  rw [Denotes, String.toList_ofList]
  simpa using hw

theorem denotes_pretty {j : Json} (h : WellFormed j) : Denotes j.pretty j :=
  denotes_write spaced_pretty h

theorem denotes_compact {j : Json} (h : WellFormed j) : Denotes j.compact j :=
  denotes_write spaced_compact h

end ViewPoints.Json
