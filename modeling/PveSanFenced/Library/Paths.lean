import PveSanFenced.Library.Text

/-!
# Paths of a Unix system

A path is a text. Its components are the pieces between the slashes: empty
pieces and dots do not count, apart from a dot at the start of a relative
path. Where a path leads, as far as its text tells, is the stack of names that
is left when every `..` takes back the name before it.
-/

namespace PveSanFenced.Library.Paths

open PveSanFenced.Library.Text

set_option autoImplicit false

inductive Component where
  | rootDir
  | curDir
  | parentDir
  | normal (name : String)
  deriving DecidableEq, Repr

section Parse

def isAbsolute (path : String) : Bool := startsWith path "/"

/-- What a piece between slashes stands for behind the first component. -/
def piece : String → Option Component
  | "" => none
  | "." => none
  | ".." => some .parentDir
  | name => some (.normal name)

/-- The root, or the dot that a relative path begins with. -/
def leading (path : String) : List Component :=
  if isAbsolute path then [.rootDir]
  else if (splitChar '/' path).head? = some "." then [.curDir]
  else []

/-- `Path::components`. -/
def components (path : String) : List Component :=
  leading path ++ (splitChar '/' path).filterMap piece

/-- `Path::starts_with`: whole components, not characters. -/
def isWithin (path base : String) : Bool := (components base).isPrefixOf (components path)

/-- `Path::join`. An absolute path replaces the base. -/
def join (base path : String) : String :=
  if isAbsolute path then path
  else if base.toList.getLast?.all (· = '/') then base ++ path
  else base ++ "/" ++ path

/-- Pieces that a path can end in without a component. -/
def isTrivial (text : String) : Bool := text = "" || text = "."

/-- `Path::parent`: the text before the last component. -/
def parent (path : String) : Option String :=
  if isAbsolute path then
    let body := (splitChar '/' path).tail.rdropWhile isTrivial
    if body.isEmpty then none
    else some ("/" ++ "/".intercalate (body.dropLast.rdropWhile isTrivial))
  else
    let first := (splitChar '/' path).headD ""
    let body := (splitChar '/' path).tail.rdropWhile isTrivial
    if body.isEmpty then if first = "" then none else some ""
    else some ("/".intercalate (first :: body.dropLast.rdropWhile isTrivial))

example : parent "/run/pve-san-fenced/./status/" = some "/run/pve-san-fenced" := by decide

end Parse

section Location

def walk (place : List String) : Component → List String
  | .rootDir => []
  | .curDir => place
  | .parentDir => place.dropLast
  | .normal name => place ++ [name]

/-- Where a path leads from the root. -/
def location (path : String) : List String := (components path).foldl walk []

def name : Component → Option String
  | .normal text => some text
  | _ => none

theorem walk_names {parts : List Component} (place : List String)
    (down : .parentDir ∉ parts) (inner : .rootDir ∉ parts) :
    parts.foldl walk place = place ++ parts.filterMap name := by
  induction parts generalizing place with
  | nil => simp
  | cons part parts ih =>
      rw [List.mem_cons, not_or] at down inner
      rw [List.foldl_cons, ih _ down.2 inner.2]
      cases part with
      | rootDir => exact absurd rfl inner.1
      | curDir => rfl
      | parentDir => exact absurd rfl down.1
      | normal text => simp [walk, name]

theorem piece_ne_root (text : String) : piece text ≠ some .rootDir := by
  unfold piece
  split <;> simp

theorem leading_cases (path : String) :
    leading path = [.rootDir] ∨ leading path = [.curDir] ∨ leading path = [] := by
  unfold leading
  split_ifs <;> simp

theorem location_names {path : String} (down : .parentDir ∉ components path) :
    location path = (components path).filterMap name := by
  have inner : .rootDir ∉ (splitChar '/' path).filterMap piece := by
    intro member
    obtain ⟨text, -, root⟩ := List.mem_filterMap.mp member
    exact piece_ne_root text root
  have rest : .parentDir ∉ (splitChar '/' path).filterMap piece :=
    fun member => down (List.mem_append_right _ member)
  unfold location components
  rw [List.foldl_append, List.filterMap_append]
  rcases leading_cases path with root | dot | none
  · rw [root]
    exact walk_names [] rest inner
  · rw [dot]
    exact walk_names [] rest inner
  · rw [none]
    exact walk_names [] rest inner

theorem location_within {path base : String} (down : .parentDir ∉ components path)
    (within : isWithin path base = true) : location base <+: location path := by
  have front : components base <+: components path := List.isPrefixOf_iff_prefix.mp within
  have down' : .parentDir ∉ components base := fun member => down (front.subset member)
  rw [location_names down, location_names down']
  exact front.filterMap name

theorem piece_cases (text : String) :
    piece text = none ∨ piece text = some .parentDir ∨
      ∃ inner, piece text = some (.normal inner) := by
  unfold piece
  split <;> simp

theorem pieces_names {pieces : List String} (down : .parentDir ∉ pieces.filterMap piece) :
    ((pieces.filterMap piece).filterMap name).map Component.normal = pieces.filterMap piece := by
  induction pieces with
  | nil => rfl
  | cons text pieces ih =>
      rcases piece_cases text with empty | up | ⟨inner, named⟩
      · rw [List.filterMap_cons_none empty] at down ⊢
        exact ih down
      · rw [List.filterMap_cons_some up] at down
        exact absurd List.mem_cons_self down
      · rw [List.filterMap_cons_some named] at down ⊢
        rw [List.filterMap_cons_some (show name (.normal inner) = some inner from rfl),
          List.map_cons, ih fun member => down (List.mem_cons_of_mem _ member)]

theorem components_of_absolute {path : String} (absolute : isAbsolute path = true)
    (down : .parentDir ∉ components path) :
    components path = .rootDir :: (location path).map Component.normal := by
  have rest : .parentDir ∉ (splitChar '/' path).filterMap piece :=
    fun member => down (List.mem_append_right _ member)
  have root : leading path = [.rootDir] := if_pos absolute
  rw [location_names down, components, root, List.filterMap_append]
  exact congrArg (Component.rootDir :: ·) (pieces_names rest).symm

theorem is_within_iff {path base : String} (absolute : isAbsolute path = true)
    (absolute' : isAbsolute base = true) (down : .parentDir ∉ components path)
    (down' : .parentDir ∉ components base) :
    isWithin path base = true ↔ location base <+: location path := by
  refine ⟨location_within down, fun front => ?_⟩
  rw [isWithin, List.isPrefixOf_iff_prefix, components_of_absolute absolute down,
    components_of_absolute absolute' down']
  exact List.cons_prefix_cons.mpr ⟨rfl, front.map Component.normal⟩

theorem components_eq_iff {path other : String} (absolute : isAbsolute path = true)
    (absolute' : isAbsolute other = true) (down : .parentDir ∉ components path)
    (down' : .parentDir ∉ components other) :
    components path = components other ↔ location path = location other := by
  constructor
  · intro same
    rw [location, location, same]
  · intro same
    rw [components_of_absolute absolute down, components_of_absolute absolute' down', same]

end Location

section Join

theorem join_of_absolute {path : String} (absolute : isAbsolute path = true) (base : String) :
    join base path = path := if_pos absolute

theorem split_char_slash (front back : List Char) :
    splitChar '/' (String.ofList (front ++ '/' :: back)) =
      splitChar '/' (String.ofList front) ++ splitChar '/' (String.ofList back) := by
  simp only [splitChar, String.toList_ofList, List.splitOn_append_cons_self, List.map_append]

/-- Joining puts the pieces of the path behind those of the base, up to an
empty piece after a last slash. -/
theorem split_char_join {base path : String} (relative : isAbsolute path = false)
    (filled : base ≠ "") : ∃ front rest, front ≠ [] ∧ rest.filterMap piece = [] ∧
      splitChar '/' base = front ++ rest ∧
      splitChar '/' (join base path) = front ++ splitChar '/' path := by
  have plain : ¬isAbsolute path = true := Bool.eq_false_iff.mp relative
  have some : base.toList ≠ [] := fun empty => filled (String.toList_inj.mp empty)
  rw [join, if_neg plain, List.getLast?_eq_some_getLast some, Option.all_some]
  by_cases slash : base.toList.getLast some = '/'
  · have split := List.dropLast_append_getLast some
    rw [slash] at split
    have whole : base = String.ofList (base.toList.dropLast ++ '/' :: []) := by
      rw [split, String.ofList_toList]
    have longer : base ++ path = String.ofList (base.toList.dropLast ++ '/' :: path.toList) := by
      apply String.toList_inj.mp
      rw [String.toList_append, String.toList_ofList]
      conv_lhs => rw [← split]
      simp
    refine ⟨splitChar '/' (String.ofList base.toList.dropLast), [""],
      split_char_ne_nil _ _, rfl, ?_, ?_⟩
    · conv_lhs => rw [whole]
      exact split_char_slash _ _
    · rw [if_pos (decide_eq_true slash), longer, split_char_slash, String.ofList_toList]
  · have longer : base ++ "/" ++ path = String.ofList (base.toList ++ '/' :: path.toList) := by
      apply String.toList_inj.mp
      simp
    refine ⟨splitChar '/' base, [], split_char_ne_nil _ _, rfl, (List.append_nil _).symm, ?_⟩
    rw [if_neg (by simpa using slash), longer, split_char_slash, String.ofList_toList,
      String.ofList_toList]

theorem is_absolute_append {front : String} (back : String) (filled : front ≠ "") :
    isAbsolute (front ++ back) = isAbsolute front := by
  have some : front.toList ≠ [] := fun empty => filled (String.toList_inj.mp empty)
  rw [isAbsolute, isAbsolute, startsWith, startsWith, String.toList_append]
  cases chars : front.toList with
  | nil => exact absurd chars some
  | cons c rest => rfl

theorem is_absolute_join {base path : String} (relative : isAbsolute path = false)
    (filled : base ≠ "") : isAbsolute (join base path) = isAbsolute base := by
  have plain : ¬isAbsolute path = true := Bool.eq_false_iff.mp relative
  rw [join, if_neg plain]
  split_ifs
  · exact is_absolute_append path filled
  · rw [String.append_assoc]
    exact is_absolute_append _ filled

/-- A relative path joined to a base adds its pieces; its own leading dot, if
it has one, disappears. -/
theorem components_join {base path : String} (relative : isAbsolute path = false)
    (filled : base ≠ "") :
    components (join base path) =
      components base ++ (splitChar '/' path).filterMap piece := by
  obtain ⟨front, rest, some, trivial, own, joined⟩ := split_char_join relative filled
  have lead : leading (join base path) = leading base := by
    rw [leading, leading, is_absolute_join relative filled, own, joined,
      List.head?_append_of_ne_nil _ some, List.head?_append_of_ne_nil _ some]
  rw [components, components, lead, own, joined, List.filterMap_append, List.filterMap_append,
    trivial, List.append_nil, List.append_assoc]

theorem is_within_join {base path : String} (relative : isAbsolute path = false)
    (filled : base ≠ "") : isWithin (join base path) base = true := by
  rw [isWithin, components_join relative filled, List.isPrefixOf_iff_prefix]
  exact List.prefix_append _ _

theorem parent_dir_iff (path : String) :
    .parentDir ∈ components path ↔ .parentDir ∈ (splitChar '/' path).filterMap piece := by
  rw [components, List.mem_append]
  rcases leading_cases path with root | dot | none
  · simp [root]
  · simp [dot]
  · simp [none]

theorem parent_dir_join {base path : String} (filled : base ≠ "")
    (down : .parentDir ∉ components base) :
    .parentDir ∈ components (join base path) ↔ .parentDir ∈ components path := by
  by_cases absolute : isAbsolute path = true
  · rw [join_of_absolute absolute]
  · rw [components_join (Bool.eq_false_iff.mpr absolute) filled, List.mem_append,
      parent_dir_iff path]
    exact or_iff_right down

theorem walk_relative {path : String} (relative : isAbsolute path = false) (place : List String) :
    (components path).foldl walk place =
      ((splitChar '/' path).filterMap piece).foldl walk place := by
  have plain : ¬isAbsolute path = true := Bool.eq_false_iff.mp relative
  rw [components, List.foldl_append, leading, if_neg plain]
  split_ifs <;> rfl

theorem location_join {base path : String} (filled : base ≠ "") :
    location (join base path) = (components path).foldl walk (location base) := by
  by_cases absolute : isAbsolute path = true
  · have root : leading path = [.rootDir] := if_pos absolute
    rw [join_of_absolute absolute, location, components, root]
    rfl
  · have relative := Bool.eq_false_iff.mpr absolute
    rw [walk_relative relative, location, components_join relative filled, List.foldl_append]
    rfl

end Join

section FileNames

/-- The text in front of the last dot with the dot, and the text behind it. -/
def dotFront (name : String) : List Char := name.toList.rdropWhile (· ≠ '.')

def dotBack (name : String) : List Char := name.toList.rtakeWhile (· ≠ '.')

/-- `Path::file_stem` and `Path::extension` of a file name: the last dot divides
it, unless nothing is in front of the dot. -/
def stemExtension (name : String) : String × Option String :=
  if name = ".." ∨ (dotFront name).length ≤ 1 then (name, none)
  else (String.ofList (dotFront name).dropLast, some (String.ofList (dotBack name)))

theorem dot_front_append (stem : String) {extension : String} (free : '.' ∉ extension.toList) :
    dotFront (stem ++ "." ++ extension) = stem.toList ++ ['.'] := by
  have passed : extension.toList.rdropWhile (· ≠ '.') = [] := by
    rw [List.rdropWhile_eq_nil_iff]
    intro c member
    exact decide_eq_true fun same => free (same ▸ member)
  have chars : (stem ++ "." ++ extension).toList = stem.toList ++ '.' :: extension.toList := by
    simp
  rw [dotFront, chars, rdrop_while_append_cons (by decide), passed]

theorem dot_parts (name : String) : dotFront name ++ dotBack name = name.toList :=
  List.rdropWhile_append_rtakeWhile ..

theorem dot_back_append (stem : String) {extension : String} (free : '.' ∉ extension.toList) :
    dotBack (stem ++ "." ++ extension) = extension.toList := by
  have whole := dot_parts (stem ++ "." ++ extension)
  rw [dot_front_append stem free] at whole
  have chars : (stem ++ "." ++ extension).toList = stem.toList ++ ['.'] ++ extension.toList := by
    simp
  exact List.append_cancel_left (whole.trans chars)

theorem dot_front_ends {name : String} (dotted : dotFront name ≠ []) :
    (dotFront name).dropLast ++ ['.'] = dotFront name := by
  have last : (dotFront name).getLast dotted = '.' := by
    have stopped := List.rdropWhile_last_not (· ≠ '.') name.toList dotted
    simpa [dotFront] using stopped
  have whole := List.dropLast_concat_getLast dotted
  rw [last] at whole
  exact whole

theorem stem_extension_append {stem extension : String} (named : stem ≠ "")
    (free : '.' ∉ extension.toList) (inside : stem ++ "." ++ extension ≠ "..") :
    stemExtension (stem ++ "." ++ extension) = (stem, some extension) := by
  have long : ¬(dotFront (stem ++ "." ++ extension)).length ≤ 1 := by
    have filled : stem.toList ≠ [] := fun empty => named (String.toList_eq_nil_iff.mp empty)
    have counted := List.length_pos_of_ne_nil filled
    rw [dot_front_append stem free, List.length_append, List.length_singleton]
    omega
  have divided : ¬(stem ++ "." ++ extension = ".." ∨
      (dotFront (stem ++ "." ++ extension)).length ≤ 1) := by
    rw [not_or]
    exact ⟨inside, long⟩
  rw [stemExtension, if_neg divided, dot_front_append stem free, dot_back_append stem free,
    List.dropLast_concat, String.ofList_toList, String.ofList_toList]

theorem of_stem_extension {name stem extension : String}
    (divided : stemExtension name = (stem, some extension)) : name = stem ++ "." ++ extension := by
  unfold stemExtension at divided
  split_ifs at divided with whole
  · cases (Prod.mk.inj divided).2
  · rw [not_or, Nat.not_le] at whole
    obtain ⟨rfl, same⟩ := Prod.mk.inj divided
    have dotted : dotFront name ≠ [] := List.ne_nil_of_length_pos (by omega)
    rw [← Option.some.inj same]
    apply String.toList_inj.mp
    have front := dot_front_ends dotted
    have parts := dot_parts name
    rw [String.toList_append, String.toList_append, String.toList_ofList, String.toList_ofList,
      String.toList_ofList, front, parts]

end FileNames

end PveSanFenced.Library.Paths
