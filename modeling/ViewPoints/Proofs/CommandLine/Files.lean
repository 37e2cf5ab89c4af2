import ViewPoints.CommandLine.Files
import ViewPoints.Proofs.Success

/-!
What a system promises of its files: a file that cannot be opened is left as it is, and writing to
a file changes no other. It does not promise that a file that was opened can be written. A directory
that is a plain value keeps these promises, with and without space for what is written.
-/

namespace ViewPoints.CommandLine

/-- The files of a system. `W` are its states and `F` its files, to each of which several paths may
lead. What is read is no stream that is used up by it. -/
structure FileSystem (W F : Type) where
  access : FileAccess (StateM W)
  /-- The file to which a path leads, there or not. Devices and directories are no files. -/
  target : W → String → Option F
  content : W → F → Option ByteArray
  openFile_state : ∀ w path, ((access.openFile path).run w).2 = w
  content_of_openFile : ∀ w path b x, ((access.openFile path).run w).1 = .ok ⟨b, none⟩ →
    target w path = some x → content w x = some b
  create_error : ∀ w path e w', (access.create path).run w = (.error e, w') → w' = w
  create_target : ∀ w path w', (access.create path).run w = (.ok (), w') →
    target w' path = target w path
  create_other : ∀ w path w', (access.create path).run w = (.ok (), w') →
    ∀ x, target w path ≠ some x → content w' x = content w x
  fill_other : ∀ w path text x, target w path ≠ some x →
    content ((access.fill path text).run w).2 x = content w x
  /-- What was opened and then written holds the text and nothing else. -/
  fill_content : ∀ w path text w' w'' x, (access.create path).run w = (.ok (), w') →
    (access.fill path text).run w' = (.ok (), w'') → target w path = some x →
    content w'' x = some text.toUTF8

namespace Directory

variable {d d' : Directory} {way way' name path x : String} {b : ByteArray}

/-! ### Contents -/

@[simp] lemma get?_put (d : Directory) (way : String) (b : ByteArray) :
    (d.put way b).get? way = some b := by
  simp [get?, put]

lemma lookup_filter_ne (files : List (String × ByteArray)) (h : way' ≠ way) :
    (files.filter fun e => e.1 != way).lookup way' = files.lookup way' := by
  induction files with
  | nil => rfl
  | cons e files ih =>
    by_cases he : e.1 = way
    · have hb : (way' == e.1) = false := by simpa [he] using h
      rw [List.filter_cons_of_neg (by simp [he]), ih, List.lookup_cons, hb]
    · rw [List.filter_cons_of_pos (by simpa using he), List.lookup_cons, List.lookup_cons, ih]

lemma get?_put_of_ne (h : way' ≠ way) : (d.put way b).get? way' = d.get? way' := by
  have hb : (way' == way) = false := by simpa using h
  rw [get?, put, List.lookup_cons, hb]
  exact lookup_filter_ne d.files h

/-! ### Paths -/

lemma walk_eq_file {names : List (List Char)} (h : d.walk way names = .file way' name) :
    d'.walk way names = .file way' name := by
  induction names generalizing way with
  | nil => simp [walk] at h
  | cons n rest ih =>
    unfold walk at h ⊢
    split at h
    next hd => rw [if_pos hd]; exact ih h
    next hd =>
      rw [if_neg hd]
      split at h
      next hu => rw [if_pos hu]; exact ih h
      next hu =>
        rw [if_neg hu]
        by_cases hr : rest = []
        · simpa only [if_pos hr] using h
        · simp only [if_neg hr] at h
          split at h
          next => simp at h
          next => split at h <;> simp at h

/-- A path that leads to a file leads to it whatever files are there. -/
lemma place_eq_file (h : d.place path = .file way name) : d'.place path = .file way name := by
  unfold place at h ⊢
  split at h
  next => simp at h
  next he =>
    rw [if_neg he]
    split at h
    next => simp at h
    next hn =>
      rw [if_neg hn]
      split at h
      next => simp at h
      next hl => rw [if_neg hl]; exact walk_eq_file h

/-- The file to which a path leads. -/
def target (d : Directory) (path : String) : Option String :=
  match d.place path with
  | .file way name => some (way ++ name)
  | _ => none

lemma target_of_place (h : d.place path = .file way name) : d.target path = some (way ++ name) := by
  rw [target, h]

lemma target_eq_some (h : d.target path = some x) :
    ∃ way name, d.place path = .file way name ∧ way ++ name = x := by
  unfold target at h
  split at h
  next way name hp => exact ⟨way, name, hp, Option.some.inj h⟩
  next => cases h

/-- Where a path leads does not depend on what is written. -/
lemma target_eq (d d' : Directory) (path : String) : d.target path = d'.target path := by
  refine Option.ext fun x => ⟨fun h => ?_, fun h => ?_⟩ <;>
    obtain ⟨way, name, hp, rfl⟩ := target_eq_some h <;>
    exact target_of_place (place_eq_file hp)

/-! ### Reading and writing -/

lemma get?_of_openFile (h : d.openFile path = .ok ⟨b, none⟩) (hx : d.target path = some x) :
    d.get? x = some b := by
  obtain ⟨way, name, hp, rfl⟩ := target_eq_some hx
  rw [openFile, hp] at h
  simp only at h
  split at h
  next => cases h
  next =>
    split at h
    next => cases h
    next c hc =>
      split at h
      next => cases h
      next => cases h; exact hc

/-- A path to be written leads nowhere, to the null device or to a file that is emptied. -/
lemma create_cases (d : Directory) (path : String) :
    (∃ e, d.create path = (.error e, d)) ∨
      (d.create path = (.ok (), d) ∧ d.target path = none) ∨
      ∃ x, d.create path = (.ok (), d.put x .empty) ∧ d.target path = some x := by
  unfold create target
  cases hp : d.place path with
  | directory => exact .inl ⟨_, rfl⟩
  | nullDevice => exact .inr (.inl ⟨rfl, rfl⟩)
  | nowhere e => exact .inl ⟨_, rfl⟩
  | file way name =>
    cases hs : endsInSlash path
    · cases hl : tooLong name
      · exact .inr (.inr ⟨way ++ name, by simp [hl], rfl⟩)
      · exact .inl ⟨.nameTooLong, by simp [hl]⟩
    · exact .inl ⟨.isADirectory, by simp⟩

lemma fill_of_target (h : d.target path = some x) (text : String) :
    d.fill path text = d.put x text.toUTF8 := by
  obtain ⟨way, name, hp, rfl⟩ := target_eq_some h
  rw [fill, hp]

lemma fill_of_target_none (h : d.target path = none) (text : String) : d.fill path text = d := by
  unfold fill
  split
  next hp => rw [target_of_place hp] at h; cases h
  next => rfl

/-- A directory with space for all that is written. -/
def fileSystem : FileSystem Directory String where
  access := access
  target := target
  content := get?
  openFile_state _ _ := rfl
  content_of_openFile _ _ _ _ := get?_of_openFile
  create_error d path e d' h := by
    have h : d.create path = (.error e, d') := h
    rcases create_cases d path with ⟨e', he⟩ | ⟨ho, -⟩ | ⟨x, ho, -⟩
    · rw [he] at h
      exact (Prod.mk.inj h).2.symm
    · simp [ho] at h
    · simp [ho] at h
  create_target _ path _ _ := target_eq _ _ path
  create_other d path d' h x hx := by
    have h : d.create path = (.ok (), d') := h
    rcases create_cases d path with ⟨e, he⟩ | ⟨ho, -⟩ | ⟨y, ho, hy⟩
    · simp [he] at h
    · rw [← (Prod.mk.inj (ho.symm.trans h)).2]
    · rw [← (Prod.mk.inj (ho.symm.trans h)).2]
      exact get?_put_of_ne fun hxy => hx (by rw [hy, hxy])
  fill_other d path text x hx := by
    show (d.fill path text).get? x = d.get? x
    cases ht : d.target path with
    | none => rw [fill_of_target_none ht]
    | some y =>
      rw [fill_of_target ht]
      exact get?_put_of_ne fun hxy => hx (by rw [ht, hxy])
  fill_content d path text d' d'' x hc hf hx := by
    have hf : d'.fill path text = d'' := (Prod.mk.inj hf).2
    rw [← hf, fill_of_target ((target_eq d' d path).trans hx), get?_put]

/-- A directory without space: files can be opened, but not written. -/
def fullDisk : FileSystem Directory String :=
  { fileSystem with
    access := { access with fill := fun _ _ d => (.error .noSpace, d) }
    fill_other := fun _ _ _ _ _ => rfl
    fill_content := fun _ _ _ _ _ _ _ hf => by cases hf }

end Directory

end ViewPoints.CommandLine
