import PveSanFenced.Library.Paths

/-!
# Where the query tools write

Both query tools carry the same check of `--output`. It reads the path only,
so what it can promise is about where the path leads by its text: to
`/dev/null`, or into one of three directories. Without a current directory the
third of them is everything.
-/

namespace PveSanFenced.OutputPath

open PveSanFenced.Library.Paths
open PveSanFenced.Library.Text

set_option autoImplicit false

section Model

/-- What `current_dir` returns; an error is its text. -/
abbrev CurrentDir := Except String String

def absolutePath (currentDir : CurrentDir) (path : String) : Except String String :=
  if isAbsolute path then .ok path
  else
    match currentDir with
    | .ok cwd => .ok (join cwd path)
    | .error e => .error ("Failed to get current directory: " ++ e)

/-- `unwrap_or_default`. -/
def cwdOrEmpty : CurrentDir → String
  | .ok cwd => cwd
  | .error _ => ""

def validateOutputPath (currentDir : CurrentDir) (path : String) : Except String String :=
  if components path = components "/dev/null" then .ok path
  else do
    let absPath ← absolutePath currentDir path
    if .parentDir ∈ components absPath then
      .error "Path traversal (..) is not allowed in output path"
    else
      let isInTmp := isWithin absPath "/tmp" || isWithin absPath "/var/tmp"
      let isInCwd := isWithin absPath (cwdOrEmpty currentDir)
      if !isInTmp && !isInCwd then
        .error "Output path must be located within /tmp, /var/tmp, or the current working directory"
      else .ok absPath

/-- The places the check is for. -/
def Allowed (cwd place : List String) : Prop :=
  place = ["dev", "null"] ∨ ["tmp"] <+: place ∨ ["var", "tmp"] <+: place ∨ cwd <+: place

end Model

section Check

variable {currentDir : CurrentDir} {cwd path target : String}

theorem dev_null_components :
    components "/dev/null" = [.rootDir, .normal "dev", .normal "null"] := by decide

theorem is_absolute_of_dev_null (null : components path = components "/dev/null") :
    isAbsolute path = true := by
  by_contra relative
  have absent : .rootDir ∉ components path := by
    rw [components, leading, if_neg relative, List.mem_append]
    intro member
    cases member with
    | inl member =>
        split_ifs at member with dot
        · simp at member
        · simp at member
    | inr member =>
        obtain ⟨text, -, root⟩ := List.mem_filterMap.mp member
        exact piece_ne_root text root
  rw [null, dev_null_components] at absent
  exact absent List.mem_cons_self

theorem absolute_path_ok (cwd path : String) :
    absolutePath (.ok cwd) path = .ok (join cwd path) := by
  by_cases absolute : isAbsolute path = true
  · rw [absolutePath, if_pos absolute, join_of_absolute absolute]
  · rw [absolutePath, if_neg absolute]

theorem outside_iff (first second third : Bool) : (!(first || second) && !third) = true ↔
    ¬(first = true ∨ second = true ∨ third = true) := by
  cases first <;> cases second <;> cases third <;> simp

theorem validate_of_absolute {absPath : String} (null : components path ≠ components "/dev/null")
    (made : absolutePath currentDir path = .ok absPath) :
    validateOutputPath currentDir path = .ok target ↔
      target = absPath ∧ .parentDir ∉ components absPath ∧
        (isWithin absPath "/tmp" = true ∨ isWithin absPath "/var/tmp" = true ∨
          isWithin absPath (cwdOrEmpty currentDir) = true) := by
  rw [validateOutputPath, if_neg null, made]
  change (if .parentDir ∈ components absPath then _ else if _ then _ else _) = _ ↔ _
  by_cases up : .parentDir ∈ components absPath
  · rw [if_pos up]
    exact iff_of_false (by intro impossible; cases impossible) fun accepted => accepted.2.1 up
  · rw [if_neg up]
    by_cases inside : isWithin absPath "/tmp" = true ∨ isWithin absPath "/var/tmp" = true ∨
        isWithin absPath (cwdOrEmpty currentDir) = true
    · rw [if_neg fun outside => (outside_iff _ _ _).mp outside inside, Except.ok.injEq]
      exact ⟨fun same => ⟨same.symm, up, inside⟩, fun accepted => accepted.1.symm⟩
    · rw [if_pos ((outside_iff _ _ _).mpr inside)]
      exact iff_of_false (by intro impossible; cases impossible) fun accepted =>
        inside accepted.2.2

theorem validate_of_error {e : String} (null : components path ≠ components "/dev/null")
    (failed : absolutePath currentDir path = .error e) :
    validateOutputPath currentDir path = .error e := by
  rw [validateOutputPath, if_neg null, failed]
  rfl

theorem absolute_of_join {cwd : String} (absolute : isAbsolute cwd = true) (path : String) :
    isAbsolute (join cwd path) = true := by
  by_cases own : isAbsolute path = true
  · rw [join_of_absolute own, own]
  · have filled : cwd ≠ "" := by
      intro empty
      rw [empty] at absolute
      exact absurd absolute (by decide)
    rw [is_absolute_join (Bool.eq_false_iff.mpr own) filled, absolute]

theorem within_of_dev_null (filled : cwd ≠ "") (null : components path ≠ components "/dev/null")
    (up : .parentDir ∉ components path) (place : location (join cwd path) = ["dev", "null"]) :
    isWithin (join cwd path) cwd = true := by
  by_cases own : isAbsolute path = true
  · rw [join_of_absolute own] at place
    have same := (components_eq_iff own (by decide : isAbsolute "/dev/null" = true) up
      (by decide)).mpr (place.trans (by decide))
    exact absurd same null
  · exact is_within_join (Bool.eq_false_iff.mpr own) filled

/-- With a current directory, a path is accepted when it has no `..` and leads
to one of the allowed places from there; what is written to is the path made
absolute. -/
theorem output_path_accepted_iff (absolute : isAbsolute cwd = true)
    (down : .parentDir ∉ components cwd) :
    validateOutputPath (.ok cwd) path = .ok target ↔
      target = join cwd path ∧ .parentDir ∉ components path ∧
        Allowed (location cwd) ((components path).foldl walk (location cwd)) := by
  have filled : cwd ≠ "" := by
    intro empty
    rw [empty] at absolute
    exact absurd absolute (by decide)
  have plain : .parentDir ∉ components "/dev/null" := by decide
  rw [← location_join filled]
  by_cases null : components path = components "/dev/null"
  · have own := is_absolute_of_dev_null null
    have up : .parentDir ∉ components path := null ▸ plain
    have place : location (join cwd path) = ["dev", "null"] := by
      rw [join_of_absolute own, location, null]
      rfl
    rw [validateOutputPath, if_pos null, Except.ok.injEq, join_of_absolute own]
    rw [join_of_absolute own] at place
    exact ⟨fun same => ⟨same.symm, up, Or.inl place⟩, fun accepted => accepted.1.symm⟩
  · have made := absolute_of_join absolute path
    rw [validate_of_absolute null (absolute_path_ok cwd path), parent_dir_join filled down]
    apply and_congr_right
    intro same
    apply and_congr_right
    intro up
    have up' : .parentDir ∉ components (join cwd path) :=
      fun member => up ((parent_dir_join filled down).mp member)
    have tmp := is_within_iff made (by decide : isAbsolute "/tmp" = true) up' (by decide)
    have varTmp := is_within_iff made (by decide : isAbsolute "/var/tmp" = true) up' (by decide)
    have inCwd := is_within_iff made absolute up' down
    have tmpPlace : location "/tmp" = ["tmp"] := by decide
    have varTmpPlace : location "/var/tmp" = ["var", "tmp"] := by decide
    have nullPlace := fun place => inCwd.mp (within_of_dev_null filled null up place)
    rw [tmp, varTmp, cwdOrEmpty, inCwd, tmpPlace, varTmpPlace]
    refine ⟨Or.inr, fun allowed => ?_⟩
    cases allowed with
    | inl place => exact Or.inr (Or.inr (nullPlace place))
    | inr inside => exact inside

theorem output_path_accepted_iff_traversal :
    validateOutputPath (.ok "/srv/san") "out/./maps.json" = .ok "/srv/san/out/./maps.json" ∧
      validateOutputPath (.ok "/srv/san") "/tmp/../etc/passwd" ≠ .ok "/tmp/../etc/passwd" := by
  have absolute : isAbsolute "/srv/san" = true := by decide
  have down : .parentDir ∉ components "/srv/san" := by decide
  constructor
  · have place : ["srv", "san"] <+: ["srv", "san", "out", "maps.json"] := ⟨_, rfl⟩
    exact (output_path_accepted_iff absolute down).mpr
      ⟨by decide, by decide, Or.inr (Or.inr (Or.inr place))⟩
  · intro accepted
    have up := ((output_path_accepted_iff absolute down).mp accepted).2.1
    exact up (by decide)

/-- Without a current directory the third of the directories is everything: an
absolute path without `..` is accepted wherever it leads, and no other path. -/
theorem output_path_unconfined {e : String} :
    validateOutputPath (.error e) path = .ok target ↔
      target = path ∧ isAbsolute path = true ∧ .parentDir ∉ components path := by
  by_cases null : components path = components "/dev/null"
  · have own := is_absolute_of_dev_null null
    have up : .parentDir ∉ components path := by
      rw [null]
      decide
    rw [validateOutputPath, if_pos null, Except.ok.injEq]
    exact ⟨fun same => ⟨same.symm, own, up⟩, fun accepted => accepted.1.symm⟩
  · by_cases own : isAbsolute path = true
    · have made : absolutePath (.error e) path = .ok path := if_pos own
      have everything : isWithin path (cwdOrEmpty (.error e)) = true := rfl
      rw [validate_of_absolute null made]
      exact ⟨fun accepted => ⟨accepted.1, own, accepted.2.1⟩,
        fun accepted => ⟨accepted.1, accepted.2.2, Or.inr (Or.inr everything)⟩⟩
    · have failed : absolutePath (.error e) path =
          .error ("Failed to get current directory: " ++ e) := if_neg own
      rw [validate_of_error null failed]
      exact iff_of_false (by intro impossible; cases impossible) fun accepted => own accepted.2.1

end Check

end PveSanFenced.OutputPath
