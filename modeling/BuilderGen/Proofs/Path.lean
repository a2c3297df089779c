import BuilderGen.Path
import Mathlib.Data.List.Basic

/-!
# Paths below a directory

A component that is joined to a directory becomes the last piece of the path, whether or not the
directory needs a separator. So the directory can be read off the path again, and the component too.

* `IsComponent`: the texts that lead one step down, with `isComponent_of_getLast?`;
* `splitAtSlashes_join`: the pieces of a path below a directory;
* `components_join`, `isAbsolute_join`: a component more leads one step further from the same place;
* `Solid`: the directories whose text ends in a component;
* `parent?_join`, `fileName?_join`: what is read off a path below such a directory;
* `components_foldl_join`, `solid_foldl_join`: several components, one behind the other;
* `slash_not_mem_of_fileName?`: what is read off as a file name is never more than one component.
-/

namespace BuilderGen.Path

/-! ## 1. Pieces -/

theorem splitAtSlashes_eq (s : List Char) : splitAtSlashes s = s.splitOn '/' := by
  induction s with
  | nil => rfl
  | cons c rest ih =>
    rw [splitAtSlashes, List.splitOn_cons_eq_if_modifyHead, ih]
    by_cases hc : c = '/'
    · rw [if_pos hc, if_pos (beq_iff_eq.2 hc)]
    · rw [if_neg hc, if_neg (by simpa using hc)]
      cases hr : rest.splitOn '/' with
      | nil => exact absurd hr (List.splitOn_ne_nil _ _)
      | cons piece more => rfl

theorem joinWithSlashes_eq (pieces : List (List Char)) :
    joinWithSlashes pieces = ['/'].intercalate pieces := by
  induction pieces with
  | nil => rfl
  | cons piece more ih =>
    cases more with
    | nil => simp [joinWithSlashes]
    | cons other rest =>
      show piece ++ '/' :: joinWithSlashes (other :: rest) = _
      rw [ih, List.intercalate_cons_cons, List.append_assoc, List.singleton_append]

/-- Joining the pieces of a text gives the text. -/
theorem joinWithSlashes_splitAtSlashes (s : List Char) : joinWithSlashes (splitAtSlashes s) = s := by
  rw [joinWithSlashes_eq, splitAtSlashes_eq, List.intercalate_splitOn]

theorem splitAtSlashes_of_not_mem {s : List Char} (hs : '/' ∉ s) : splitAtSlashes s = [s] := by
  rw [splitAtSlashes_eq, List.splitOn_eq_singleton hs]

/-- A slash between two texts separates their pieces. -/
theorem splitAtSlashes_append (s t : List Char) :
    splitAtSlashes (s ++ '/' :: t) = splitAtSlashes s ++ splitAtSlashes t := by
  simp only [splitAtSlashes_eq, List.splitOn_append_cons_self]

/-- No piece holds a slash. -/
theorem slash_not_mem_of_mem_splitAtSlashes {s piece : List Char}
    (hp : piece ∈ splitAtSlashes s) : '/' ∉ piece := by
  induction s generalizing piece with
  | nil =>
    rw [List.mem_singleton.1 hp]
    exact List.not_mem_nil
  | cons c rest ih =>
    rw [splitAtSlashes] at hp
    by_cases hc : c = '/'
    · rw [if_pos hc] at hp
      rcases List.mem_cons.1 hp with rfl | hp
      · exact List.not_mem_nil
      · exact ih hp
    · rw [if_neg hc] at hp
      cases hr : splitAtSlashes rest with
      | nil =>
        rw [splitAtSlashes_eq] at hr
        exact absurd hr (List.splitOn_ne_nil _ _)
      | cons first more =>
        rw [hr] at hp ih
        rcases List.mem_cons.1 hp with rfl | hp
        · rw [List.mem_cons, not_or]
          exact ⟨Ne.symm hc, ih List.mem_cons_self⟩
        · exact ih (List.mem_cons_of_mem _ hp)

/-! ## 2. Joining -/

/-- **Whether a text is one component of a path**, which leads neither to the same place nor up. -/
structure IsComponent (name : String) : Prop where
  slash : '/' ∉ name.toList
  stays : isTrivial name.toList = false
  up : name ≠ ".."

/-- A text without a slash is a component if it does not end in a dot. -/
theorem isComponent_of_getLast? {name : String} {last : Char} (hs : '/' ∉ name.toList)
    (hl : name.toList.getLast? = some last) (hd : last ≠ '.') : IsComponent name := by
  have hdot : name.toList.getLast? ≠ some '.' := by
    rw [hl]
    exact fun e => hd (Option.some.inj e)
  refine ⟨hs, ?_, ?_⟩
  · rw [isTrivial, Bool.or_eq_false_iff, beq_eq_false_iff_ne, beq_eq_false_iff_ne]
    refine ⟨fun e => ?_, fun e => hdot (by rw [e]; rfl)⟩
    rw [e] at hl
    cases hl
  · rintro rfl
    exact hdot rfl

/-- The pieces of a directory without the empty one behind its last slash. -/
def stem (dir : String) : List (List Char) :=
  if dir.isEmpty || dir.toList.getLast? == some '/' then (splitAtSlashes dir.toList).dropLast
  else splitAtSlashes dir.toList

/-- The stem leaves out nothing but an empty piece at the end. -/
theorem splitAtSlashes_eq_stem (dir : String) :
    splitAtSlashes dir.toList = stem dir ∨ splitAtSlashes dir.toList = stem dir ++ [[]] := by
  unfold stem
  by_cases hd : (dir.isEmpty || dir.toList.getLast? == some '/') = true
  · rw [if_pos hd]
    right
    rw [Bool.or_eq_true, beq_iff_eq, String.isEmpty_iff] at hd
    rcases hd with rfl | hd
    · rfl
    · obtain ⟨front, hfront⟩ := List.getLast?_eq_some_iff.1 hd
      rw [hfront, splitAtSlashes_append]
      simp [splitAtSlashes]
  · rw [if_neg hd]
    exact .inl rfl

theorem isAbsolute_of_slash_not_mem {name : String} (hn : '/' ∉ name.toList) :
    isAbsolute name = false := by
  rw [isAbsolute, beq_eq_false_iff_ne]
  exact fun e => hn (List.mem_of_mem_head? (by simp [e]))

/-- **A name without a slash becomes the last piece of a path.** -/
theorem splitAtSlashes_join {dir name : String} (hn : '/' ∉ name.toList) :
    splitAtSlashes (join dir name).toList = stem dir ++ [name.toList] := by
  have habsolute : ¬ isAbsolute name = true := by simp [isAbsolute_of_slash_not_mem hn]
  unfold join stem
  rw [if_neg habsolute]
  by_cases hd : (dir.isEmpty || dir.toList.getLast? == some '/') = true
  · rw [if_pos hd, if_pos hd, String.toList_append]
    rw [Bool.or_eq_true, beq_iff_eq, String.isEmpty_iff] at hd
    rcases hd with rfl | hd
    · exact splitAtSlashes_of_not_mem hn
    · obtain ⟨front, hfront⟩ := List.getLast?_eq_some_iff.1 hd
      rw [hfront, List.append_assoc, List.singleton_append, splitAtSlashes_append,
        splitAtSlashes_append, splitAtSlashes_of_not_mem hn]
      simp [splitAtSlashes]
  · have htext : (dir ++ "/" ++ name).toList = dir.toList ++ '/' :: name.toList := by simp
    rw [if_neg hd, if_neg hd, htext, splitAtSlashes_append, splitAtSlashes_of_not_mem hn]

/-- **A component more leads one step further.** -/
theorem components_join {name : String} (hn : IsComponent name) (dir : String) :
    components (join dir name) = components dir ++ [name] := by
  have hstem : (stem dir).filter (fun piece => !isTrivial piece) =
      (splitAtSlashes dir.toList).filter fun piece => !isTrivial piece := by
    rcases splitAtSlashes_eq_stem dir with e | e
    · rw [e]
    · rw [e, List.filter_append]
      simp [isTrivial]
  rw [components, components, splitAtSlashes_join hn.slash, List.filter_append, hstem,
    List.map_append]
  simp [hn.stays]

/-- The path starts where the directory does. -/
theorem isAbsolute_join {name : String} (hn : IsComponent name) (dir : String) :
    isAbsolute (join dir name) = isAbsolute dir := by
  have hname := isAbsolute_of_slash_not_mem hn.slash
  by_cases hdir : dir = ""
  · subst hdir
    simp [join, hname]
    simp [isAbsolute]
  · obtain ⟨c, rest, hc⟩ : ∃ c rest, dir.toList = c :: rest :=
      List.exists_cons_of_ne_nil (by simpa using hdir)
    have habsolute : ¬ isAbsolute name = true := by simp [hname]
    unfold join
    rw [if_neg habsolute]
    split
    · simp [isAbsolute, hc]
    · simp [isAbsolute, hc]

/-! ## 3. Reading a path -/

/-- **Whether the text of a directory ends in a component.** -/
def Solid (dir : String) : Prop :=
  ∃ front last, splitAtSlashes dir.toList = front ++ [last] ∧ isTrivial last = false

theorem solid_join {name : String} (hn : IsComponent name) (dir : String) :
    Solid (join dir name) :=
  ⟨stem dir, name.toList, splitAtSlashes_join hn.slash, hn.stays⟩

theorem Solid.stem_eq {dir : String} (hd : Solid dir) : stem dir = splitAtSlashes dir.toList := by
  obtain ⟨front, last, hsplit, hlast⟩ := hd
  rcases splitAtSlashes_eq_stem dir with e | e
  · exact e.symm
  · rw [hsplit] at e
    have hnil : last = [] := by simpa using congrArg List.getLast? e
    rw [hnil] at hlast
    cases hlast

/-- Nothing is trimmed behind a piece that stands for something. -/
theorem trimPieces_concat (front : List (List Char)) {last : List Char}
    (hlast : isTrivial last = false) : trimPieces (front ++ [last]) = front ++ [last] := by
  cases front with
  | nil => rfl
  | cons first rest =>
    rw [List.cons_append, trimPieces, List.reverse_append, List.reverse_singleton,
      List.singleton_append, List.dropWhile_cons_of_neg (by simp [hlast]), List.reverse_cons,
      List.reverse_reverse]

theorem concat_ne_root {front : List (List Char)} {last : List Char}
    (hlast : isTrivial last = false) : front ++ [last] ≠ [[]] := by
  intro e
  have hnil : last = [] := by simpa using congrArg List.getLast? e
  rw [hnil] at hlast
  cases hlast

theorem pieces?_join {dir name : String} (hd : Solid dir) (hn : IsComponent name) :
    pieces? (join dir name) = some (splitAtSlashes dir.toList ++ [name.toList]) := by
  rw [pieces?, splitAtSlashes_join hn.slash, hd.stem_eq, trimPieces_concat _ hn.stays]
  split
  · rename_i e
    exact absurd e (concat_ne_root hn.stays)
  · rfl

/-- **The directory can be read off a path below it.** -/
theorem parent?_join {dir name : String} (hd : Solid dir) (hn : IsComponent name) :
    parent? (join dir name) = some dir := by
  rw [parent?, pieces?_join hd hn, Option.map_some, List.dropLast_concat]
  obtain ⟨front, last, hsplit, hlast⟩ := hd
  have hdir : ofPieces (splitAtSlashes dir.toList) = dir := by
    unfold ofPieces
    split
    · rename_i e
      rw [hsplit] at e
      exact absurd e (concat_ne_root hlast)
    · rw [joinWithSlashes_splitAtSlashes, String.ofList_toList]
  have htrim : trimPieces (splitAtSlashes dir.toList) = splitAtSlashes dir.toList := by
    rw [hsplit, trimPieces_concat front hlast]
  rw [htrim]
  split
  · rename_i e
    rw [hsplit] at e
    simp at e
  · rw [hdir]

/-- **The component can be read off the path.** -/
theorem fileName?_join {dir name : String} (hd : Solid dir) (hn : IsComponent name) :
    fileName? (join dir name) = some name := by
  have hdot : name.toList ≠ ['.'] := by
    intro e
    have := hn.stays
    rw [e] at this
    cases this
  have hup : name.toList ≠ ['.', '.'] := fun e => hn.up (String.toList_injective e)
  rw [fileName?, pieces?_join hd hn, Option.bind_some, List.getLast?_concat]
  simp [hdot, hup]

/-! ## 4. Several components -/

/-- Some components more lead as many steps further, from the same place. -/
theorem components_foldl_join {names : List String} (hn : ∀ name ∈ names, IsComponent name)
    (dir : String) : components (names.foldl join dir) = components dir ++ names ∧
      isAbsolute (names.foldl join dir) = isAbsolute dir := by
  induction names generalizing dir with
  | nil => simp
  | cons name rest ih =>
    obtain ⟨hname, hrest⟩ := List.forall_mem_cons.1 hn
    obtain ⟨hcomponents, habsolute⟩ := ih hrest (join dir name)
    rw [components_join hname, List.append_assoc, List.singleton_append] at hcomponents
    rw [isAbsolute_join hname] at habsolute
    exact ⟨hcomponents, habsolute⟩

theorem solid_foldl_join {names : List String} (hn : ∀ name ∈ names, IsComponent name)
    (hne : names ≠ []) (dir : String) : Solid (names.foldl join dir) := by
  obtain ⟨front, name, rfl⟩ := (List.eq_nil_or_concat' names).resolve_left hne
  rw [List.foldl_concat]
  exact solid_join (hn name (by simp)) _

/-! ## 5. File names -/

theorem mem_of_mem_trimPieces {pieces : List (List Char)} {piece : List Char}
    (hp : piece ∈ trimPieces pieces) : piece ∈ pieces := by
  cases pieces with
  | nil => exact hp
  | cons first rest =>
    rw [trimPieces, List.mem_cons, List.mem_reverse] at hp
    rcases hp with rfl | hp
    · exact List.mem_cons_self
    · have hrest := (List.dropWhile_sublist isTrivial).subset hp
      exact List.mem_cons_of_mem _ (List.mem_reverse.1 hrest)

/-- **A file name is one component.** -/
theorem slash_not_mem_of_fileName? {p name : String} (hf : fileName? p = some name) :
    '/' ∉ name.toList := by
  rw [fileName?] at hf
  cases hl : (pieces? p).bind List.getLast? with
  | none =>
    rw [hl] at hf
    cases hf
  | some last =>
    rw [hl] at hf
    dsimp only at hf
    have hname : String.ofList last = name := by
      split at hf
      · cases hf
      · exact Option.some.inj hf
    obtain ⟨pieces, hpieces, hlast⟩ := Option.bind_eq_some_iff.1 hl
    have hmem : last ∈ trimPieces (splitAtSlashes p.toList) := by
      rw [pieces?] at hpieces
      split at hpieces
      · cases hpieces
      · cases hpieces
        exact List.mem_of_getLast? hlast
    rw [← hname, String.toList_ofList]
    exact slash_not_mem_of_mem_splitAtSlashes (mem_of_mem_trimPieces hmem)

end BuilderGen.Path
