import Mathlib.Data.List.Basic
import Mathlib.Tactic.Common

/-!
# Posix paths

A path is a text of segments between separators.  `walk` is what a path means: the place it leads to from
the directory one is in.  `normalize` and `join` are Node's functions of the same names for Posix.  A
normalized path leads to the same place (`walk_normalize`), and the segments that are put below a folder
stay below it (`under_join`).
-/

namespace Telima.PosixPath

abbrev Segment := List Char

def segments (path : List Char) : List Segment := path.splitOn '/'

/-- A segment that is the name of something. -/
structure Plain (segment : Segment) : Prop where
  ne_nil : segment ≠ []
  ne_dot : segment ≠ ['.']
  ne_dots : segment ≠ ['.', '.']

/-! ### The place a path leads to -/

def enter (place : List Segment) (segment : Segment) : List Segment :=
  if segment = [] ∨ segment = ['.'] then place
  -- the root is its own parent
  else if segment = ['.', '.'] then place.dropLast
  else place ++ [segment]

def isAbsolute (path : List Char) : Bool := path.head? == some '/'

/-- The place `path` leads to, by the names from the root, for someone in the directory `cwd`. -/
def walk (cwd : List Segment) (path : List Char) : List Segment :=
  (segments path).foldl enter (if isAbsolute path then [] else cwd)

/-! ### `path.normalize` and `path.join` -/

/-- What `normalizeString` does with one segment, after those it kept. -/
def keep (allowAboveRoot : Bool) (kept : List Segment) (segment : Segment) : List Segment :=
  if segment = [] ∨ segment = ['.'] then kept
  else if segment = ['.', '.'] then
    if kept = [] ∨ kept.getLast? = some ['.', '.'] then
      if allowAboveRoot then kept ++ [segment] else kept
    else kept.dropLast
  else kept ++ [segment]

def keptSegments (path : List Char) (allowAboveRoot : Bool) : List Segment :=
  (segments path).foldl (keep allowAboveRoot) []

def normalizeString (path : List Char) (allowAboveRoot : Bool) : List Char :=
  ['/'].intercalate (keptSegments path allowAboveRoot)

def trailingSeparator (path : List Char) : Bool := path.getLast? == some '/'

def normalize (path : List Char) : List Char :=
  if path = [] then ['.']
  else
    let normalized := normalizeString path (!isAbsolute path)
    if normalized = [] then
      if isAbsolute path then ['/']
      else if trailingSeparator path then ['.', '/'] else ['.']
    else
      let closed := if trailingSeparator path then normalized ++ ['/'] else normalized
      if isAbsolute path then '/' :: closed else closed

def join (paths : List (List Char)) : List Char :=
  let nonempty := paths.filter fun path => decide (path ≠ [])
  if nonempty = [] then ['.'] else normalize (['/'].intercalate nonempty)

/-! ### Segments -/

/-- A piece of a text is made of its characters, less those it was split at. -/
theorem mem_of_mem_splitOn {α : Type} [BEq α] [LawfulBEq α] {sep c : α} {xs piece : List α}
    (hpiece : piece ∈ xs.splitOn sep) (hc : c ∈ piece) : c ∈ xs ∧ c ≠ sep := by
  induction xs generalizing piece with
  | nil =>
    rw [List.splitOn_nil, List.mem_singleton] at hpiece
    simp [hpiece] at hc
  | cons x xs ih =>
    rw [List.splitOn_cons_eq_if_modifyHead] at hpiece
    split_ifs at hpiece with hx
    · rcases List.mem_cons.mp hpiece with rfl | hpiece
      · simp at hc
      · obtain ⟨hmem, hne⟩ := ih hpiece hc
        exact ⟨List.mem_cons_of_mem x hmem, hne⟩
    · -- the first piece of the rest has `x` in front of it, the others are as they were
      obtain ⟨first, others, hsplit⟩ := List.exists_cons_of_ne_nil (List.splitOn_ne_nil sep xs)
      rw [hsplit, List.modifyHead_cons] at hpiece
      rw [hsplit] at ih
      have hxsep : x ≠ sep := by simpa using hx
      rcases List.mem_cons.mp hpiece with rfl | hpiece
      · rcases List.mem_cons.mp hc with rfl | hc
        · exact ⟨List.mem_cons_self, hxsep⟩
        · obtain ⟨hmem, hne⟩ := ih List.mem_cons_self hc
          exact ⟨List.mem_cons_of_mem x hmem, hne⟩
      · obtain ⟨hmem, hne⟩ := ih (List.mem_cons_of_mem first hpiece) hc
        exact ⟨List.mem_cons_of_mem x hmem, hne⟩

theorem not_mem_of_mem_segments {path : List Char} {segment : Segment} (h : segment ∈ segments path) :
    '/' ∉ segment := fun hmem => (mem_of_mem_splitOn h hmem).2 rfl

theorem segments_append (path rest : List Char) :
    segments (path ++ '/' :: rest) = segments path ++ segments rest :=
  List.splitOn_append_cons_self path rest

theorem segments_intercalate {kept : List Segment} (hne : kept ≠ [])
    (h : ∀ segment ∈ kept, '/' ∉ segment) : segments (['/'].intercalate kept) = kept :=
  List.splitOn_intercalate '/' h hne

theorem segments_of_not_mem {path : List Char} (h : '/' ∉ path) : segments path = [path] :=
  List.splitOn_eq_singleton h

/-- A text without separators goes in front of the first segment. -/
theorem segments_prepend {before text : List Char} {first : Segment} {others : List Segment}
    (h : '/' ∉ before) (htext : segments text = first :: others) :
    segments (before ++ text) = (before ++ first) :: others := by
  induction before with
  | nil => exact htext
  | cons c before ih =>
    have hrest := ih fun hmem => h (List.mem_cons_of_mem c hmem)
    have hc : (c == '/') = false := by
      rw [beq_eq_false_iff_ne]
      rintro rfl
      exact h List.mem_cons_self
    rw [segments] at hrest ⊢
    rw [List.cons_append, List.splitOn_cons_eq_if_modifyHead, hc, hrest]
    rfl

theorem plain_of_head {c : Char} (h : c ≠ '.') (rest : List Char) : Plain (c :: rest) := by
  constructor <;> simp [h]

/-- A segment without dots is a name. -/
theorem plain_of_not_mem {segment : Segment} (hne : segment ≠ []) (h : '.' ∉ segment) :
    Plain segment := by
  obtain ⟨c, rest, rfl⟩ := List.exists_cons_of_ne_nil hne
  refine plain_of_head ?_ rest
  rintro rfl
  exact h List.mem_cons_self

/-! ### Entering segments -/

@[simp] theorem enter_nil (place : List Segment) : enter place [] = place := by simp [enter]

@[simp] theorem enter_dot (place : List Segment) : enter place ['.'] = place := by simp [enter]

@[simp] theorem enter_dots (place : List Segment) : enter place ['.', '.'] = place.dropLast := by
  simp [enter]

theorem enter_plain {segment : Segment} (h : Plain segment) (place : List Segment) :
    enter place segment = place ++ [segment] := by
  simp [enter, h.ne_nil, h.ne_dot, h.ne_dots]

/-- Names are entered one below the other, and the empty segments of a text change nothing. -/
theorem foldl_enter_plain {below : List Segment} (place : List Segment)
    (h : ∀ segment ∈ below, segment ≠ [] → Plain segment) :
    below.foldl enter place = place ++ below.filter fun segment => decide (segment ≠ []) := by
  induction below generalizing place with
  | nil => simp
  | cons segment below ih =>
    have hrest := fun place => ih place fun s hs => h s (List.mem_cons_of_mem segment hs)
    rw [List.foldl_cons, hrest]
    by_cases hnil : segment = []
    · subst hnil
      simp
    · rw [enter_plain (h segment List.mem_cons_self hnil)]
      simp [hnil]

/-! ### The segments that are kept -/

section Kept

variable {allowAboveRoot : Bool} {kept : List Segment}

/-- What the kept segments are at every moment: no empty one, no `.`, and `..` only where the path may
lead above the place it starts from. -/
structure Reduced (allowAboveRoot : Bool) (kept : List Segment) : Prop where
  ne_nil : ∀ segment ∈ kept, segment ≠ []
  ne_dot : ∀ segment ∈ kept, segment ≠ ['.']
  no_separator : ∀ segment ∈ kept, '/' ∉ segment
  above : allowAboveRoot = false → ['.', '.'] ∉ kept

theorem Reduced.nil : Reduced allowAboveRoot [] := by
  constructor <;> simp

theorem Reduced.dropLast (h : Reduced allowAboveRoot kept) : Reduced allowAboveRoot kept.dropLast where
  ne_nil segment hmem := h.ne_nil segment (List.dropLast_subset kept hmem)
  ne_dot segment hmem := h.ne_dot segment (List.dropLast_subset kept hmem)
  no_separator segment hmem := h.no_separator segment (List.dropLast_subset kept hmem)
  above hbelow hmem := h.above hbelow (List.dropLast_subset kept hmem)

theorem Reduced.append (h : Reduced allowAboveRoot kept) {segment : Segment} (hnil : segment ≠ [])
    (hdot : segment ≠ ['.']) (hsep : '/' ∉ segment)
    (habove : allowAboveRoot = false → segment ≠ ['.', '.']) :
    Reduced allowAboveRoot (kept ++ [segment]) := by
  constructor
  · simpa [or_imp, forall_and] using ⟨h.ne_nil, hnil⟩
  · simpa [or_imp, forall_and] using ⟨h.ne_dot, hdot⟩
  · simpa [or_imp, forall_and] using ⟨h.no_separator, hsep⟩
  · intro hbelow hmem
    rcases List.mem_append.mp hmem with hmem | hmem
    · exact h.above hbelow hmem
    · exact habove hbelow (List.mem_singleton.mp hmem).symm

theorem Reduced.keep (h : Reduced allowAboveRoot kept) {segment : Segment} (hsep : '/' ∉ segment) :
    Reduced allowAboveRoot (keep allowAboveRoot kept segment) := by
  unfold PosixPath.keep
  split_ifs with hskip hdots hstart hallow
  · exact h
  · subst hdots
    exact h.append (by decide) (by decide) (by decide) (by simp [hallow])
  · exact h
  · exact h.dropLast
  · obtain ⟨hnil, hdot⟩ := not_or.mp hskip
    exact h.append hnil hdot hsep fun _ => hdots

/-- To enter what is kept is to enter what was kept before, and then the segment.  A path that may not
lead above its start is one that starts at the root. -/
theorem foldl_enter_keep (h : Reduced allowAboveRoot kept) {place : List Segment}
    (hroot : allowAboveRoot = false → place = []) (segment : Segment) :
    (keep allowAboveRoot kept segment).foldl enter place = enter (kept.foldl enter place) segment := by
  unfold keep
  split_ifs with hskip hdots hstart hallow
  · rcases hskip with rfl | rfl
    · rw [enter_nil]
    · rw [enter_dot]
  · rw [List.foldl_append, List.foldl_cons, List.foldl_nil]
  · have hbelow : allowAboveRoot = false := by simpa using hallow
    rcases hstart with rfl | hlast
    · rw [hdots, List.foldl_nil, hroot hbelow, enter_dots, List.dropLast_nil]
    · exact absurd (List.mem_of_getLast? hlast) (h.above hbelow)
  · -- the last of what was kept is a name, which `..` leaves again
    obtain ⟨hne, hlast⟩ := not_or.mp hstart
    obtain ⟨init, last, rfl⟩ := (List.eq_nil_or_concat kept).resolve_left hne
    rw [List.concat_eq_append] at h hlast ⊢
    have hmem : last ∈ init ++ [last] := by simp
    have hplain : Plain last :=
      ⟨h.ne_nil last hmem, h.ne_dot last hmem, fun heq => hlast (by rw [heq, List.getLast?_concat])⟩
    rw [hdots, List.dropLast_concat, List.foldl_append, List.foldl_cons, List.foldl_nil,
      enter_plain hplain, enter_dots, List.dropLast_concat]
  · rw [List.foldl_append, List.foldl_cons, List.foldl_nil]

/-- What holds of the kept segments at the end of the path, by induction on the segments. -/
theorem Reduced.foldl_keep {rest : List Segment} (h : Reduced allowAboveRoot kept)
    (hsep : ∀ segment ∈ rest, '/' ∉ segment) :
    Reduced allowAboveRoot (rest.foldl (PosixPath.keep allowAboveRoot) kept) ∧
      ∀ place : List Segment, (allowAboveRoot = false → place = []) →
        (rest.foldl (PosixPath.keep allowAboveRoot) kept).foldl enter place =
          rest.foldl enter (kept.foldl enter place) := by
  induction rest generalizing kept with
  | nil => exact ⟨h, fun _ _ => rfl⟩
  | cons segment rest ih =>
    have hkeep := h.keep (hsep segment List.mem_cons_self)
    obtain ⟨hreduced, henter⟩ := ih hkeep fun s hs => hsep s (List.mem_cons_of_mem segment hs)
    refine ⟨hreduced, fun place hroot => ?_⟩
    rw [List.foldl_cons, List.foldl_cons, henter place hroot, foldl_enter_keep h hroot]

theorem reduced_keptSegments (path : List Char) (allowAboveRoot : Bool) :
    Reduced allowAboveRoot (keptSegments path allowAboveRoot) :=
  (Reduced.nil.foldl_keep fun _ => not_mem_of_mem_segments).1

theorem foldl_enter_keptSegments (path : List Char) {place : List Segment}
    (hroot : allowAboveRoot = false → place = []) :
    (keptSegments path allowAboveRoot).foldl enter place = (segments path).foldl enter place :=
  (Reduced.nil.foldl_keep fun _ => not_mem_of_mem_segments).2 place hroot

theorem keep_plain {segment : Segment} (h : Plain segment) (kept : List Segment) :
    keep allowAboveRoot kept segment = kept ++ [segment] := by
  simp [keep, h.ne_nil, h.ne_dot, h.ne_dots]

/-- Names are kept, whatever stands before them. -/
theorem foldl_keep_plain {below : List Segment} (kept : List Segment)
    (h : ∀ segment ∈ below, segment ≠ [] → Plain segment) :
    below.foldl (keep allowAboveRoot) kept =
      kept ++ below.filter fun segment => decide (segment ≠ []) := by
  induction below generalizing kept with
  | nil => simp
  | cons segment below ih =>
    have hrest := fun kept => ih kept fun s hs => h s (List.mem_cons_of_mem segment hs)
    rw [List.foldl_cons, hrest]
    by_cases hnil : segment = []
    · subst hnil
      simp [keep]
    · rw [keep_plain (h segment List.mem_cons_self hnil)]
      simp [hnil]

end Kept

/-! ### The text of a normalized path -/

theorem intercalate_append {before after : List Segment} (hbefore : before ≠ []) (hafter : after ≠ []) :
    ['/'].intercalate (before ++ after) =
      ['/'].intercalate before ++ '/' :: ['/'].intercalate after := by
  induction before with
  | nil => exact absurd rfl hbefore
  | cons segment before ih =>
    cases before with
    | nil =>
      obtain ⟨first, others, rfl⟩ := List.exists_cons_of_ne_nil hafter
      simp
    | cons second before =>
      have hrest := ih (List.cons_ne_nil second before)
      rw [List.cons_append] at hrest
      rw [List.cons_append, List.cons_append, List.intercalate_cons_cons, hrest,
        List.intercalate_cons_cons]
      simp

variable {path : List Char} {kept : List Segment}

theorem exists_intercalate (hne : kept ≠ []) (hnil : ∀ segment ∈ kept, segment ≠ [])
    (hsep : ∀ segment ∈ kept, '/' ∉ segment) :
    ∃ c rest, ['/'].intercalate kept = c :: rest ∧ c ≠ '/' := by
  obtain ⟨first, others, rfl⟩ := List.exists_cons_of_ne_nil hne
  obtain ⟨c, rest, rfl⟩ := List.exists_cons_of_ne_nil (hnil first List.mem_cons_self)
  have hc : c ≠ '/' := by
    intro heq
    exact hsep _ List.mem_cons_self (by rw [heq]; exact List.mem_cons_self)
  cases others with
  | nil => exact ⟨c, rest, by simp, hc⟩
  | cons segment others =>
    exact ⟨c, rest ++ '/' :: ['/'].intercalate (segment :: others), by simp, hc⟩

/-- A separator in front, or at the end, of the text of a normalized path. -/
def separatorIf (present : Bool) : List Char := if present then ['/'] else []

theorem normalize_eq (hne : keptSegments path (!isAbsolute path) ≠ []) :
    normalize path = separatorIf (isAbsolute path) ++
      (['/'].intercalate (keptSegments path (!isAbsolute path)) ++
        separatorIf (trailingSeparator path)) := by
  have hpath : path ≠ [] := by
    rintro rfl
    exact hne rfl
  have hreduced := reduced_keptSegments path (!isAbsolute path)
  obtain ⟨c, rest, htext, -⟩ := exists_intercalate hne hreduced.ne_nil hreduced.no_separator
  have htext' : normalizeString path (!isAbsolute path) ≠ [] := by
    rw [normalizeString, htext]
    exact List.cons_ne_nil c rest
  simp only [normalize, if_neg hpath, if_neg htext', separatorIf]
  split_ifs <;> simp [normalizeString]

theorem normalize_ne_nil (path : List Char) : normalize path ≠ [] := by
  simp only [normalize]
  split_ifs <;> simp_all

theorem join_ne_nil (paths : List (List Char)) : join paths ≠ [] := by
  simp only [join]
  split_ifs
  · exact List.cons_ne_nil _ _
  · exact normalize_ne_nil _

/-- The separators at the two ends of a path are empty segments. -/
theorem foldl_enter_separators (front back : Bool) (text : List Char) (place : List Segment) :
    (segments (separatorIf front ++ (text ++ separatorIf back))).foldl enter place =
      (segments text).foldl enter place := by
  have hback : (segments (text ++ separatorIf back)).foldl enter place =
      (segments text).foldl enter place := by
    cases back with
    | false => rw [separatorIf, if_neg Bool.false_ne_true, List.append_nil]
    | true =>
      rw [separatorIf, if_pos rfl, segments_append, List.foldl_append]
      exact enter_nil _
  cases front with
  | false => rw [separatorIf, if_neg Bool.false_ne_true, List.nil_append, hback]
  | true =>
    have hfront := segments_append [] (text ++ separatorIf back)
    rw [List.nil_append] at hfront
    show (segments ('/' :: (text ++ separatorIf back))).foldl enter place = _
    rw [hfront, List.foldl_append, ← hback]
    rfl

/-- A normalized path leads to the same place. -/
theorem walk_normalize (cwd : List Segment) (path : List Char) :
    walk cwd (normalize path) = walk cwd path := by
  have hkept : (keptSegments path (!isAbsolute path)).foldl enter
      (if isAbsolute path then [] else cwd) = walk cwd path := by
    apply foldl_enter_keptSegments
    intro hbelow
    rw [if_pos (by simpa using hbelow)]
  by_cases hpath : path = []
  · subst hpath
    rfl
  by_cases hne : keptSegments path (!isAbsolute path) = []
  · rw [← hkept, hne, List.foldl_nil]
    have htext : normalizeString path (!isAbsolute path) = [] := by rw [normalizeString, hne]; rfl
    simp only [normalize, if_neg hpath, htext, if_true]
    cases isAbsolute path with
    | true => rfl
    | false => cases trailingSeparator path <;> rfl
  · have hreduced := reduced_keptSegments path (!isAbsolute path)
    obtain ⟨c, rest, htext, hc⟩ := exists_intercalate hne hreduced.ne_nil hreduced.no_separator
    have habsolute : isAbsolute (normalize path) = isAbsolute path := by
      rw [normalize_eq hne, htext]
      cases isAbsolute path with
      | true => rfl
      | false => simpa [separatorIf, isAbsolute] using hc
    rw [walk, habsolute, normalize_eq hne, foldl_enter_separators,
      segments_intercalate hne hreduced.no_separator, hkept]

/-! ### Joined paths -/

/-- The text `join` normalizes. -/
def joinText (base key : List Char) : List Char := if base = [] then key else base ++ '/' :: key

theorem join_pair (base : List Char) {key : List Char} (hkey : key ≠ []) :
    join [base, key] = normalize (joinText base key) := by
  by_cases hbase : base = []
  · subst hbase
    simp [join, joinText, hkey]
  · simp [join, joinText, hkey, hbase]

theorem joinText_append (base dir rest : List Char) :
    joinText base (dir ++ '/' :: rest) = joinText base dir ++ '/' :: rest := by
  unfold joinText
  split_ifs
  · rfl
  · rw [List.append_assoc, List.cons_append]

theorem isAbsolute_append {path : List Char} (hne : path ≠ []) (rest : List Char) :
    isAbsolute (path ++ rest) = isAbsolute path := by
  rw [isAbsolute, isAbsolute, List.head?_append_of_ne_nil path hne]

theorem walk_append (cwd : List Segment) {path : List Char} (hne : path ≠ []) (rest : List Char) :
    walk cwd (path ++ '/' :: rest) = (segments rest).foldl enter (walk cwd path) := by
  rw [walk, walk, segments_append, List.foldl_append, isAbsolute_append hne]

/-- The joined path leads to where the key leads to from the base. -/
theorem walk_join (cwd : List Segment) (base : List Char) {key : List Char} (hkey : key ≠ [])
    (hrelative : isAbsolute key = false) : walk cwd (join [base, key]) = walk (walk cwd base) key := by
  have hfrom : ∀ place, walk place key = (segments key).foldl enter place := by
    intro place
    rw [walk, hrelative, if_neg Bool.false_ne_true]
  rw [join_pair base hkey, walk_normalize, joinText, hfrom]
  split_ifs with hbase
  · subst hbase
    exact hfrom cwd
  · exact walk_append cwd hbase key

/-! ### Below a folder -/

/-- The names in a text, without the empty segments between separators that follow each other. -/
def names (path : List Char) : List Segment := (segments path).filter fun segment => decide (segment ≠ [])

/-- `path` is the text of the folder, and names below it. -/
def Under (folder path : List Char) : Prop :=
  ∃ rest, path = folder ++ '/' :: rest ∧ names rest ≠ [] ∧ ∀ name ∈ names rest, Plain name

theorem plain_of_names {rest : List Char} (h : ∀ name ∈ names rest, Plain name) :
    ∀ segment ∈ segments rest, segment ≠ [] → Plain segment := by
  intro segment hsegment hne
  exact h segment (List.mem_filter.mpr ⟨hsegment, decide_eq_true hne⟩)

/-- A path under a folder leads below the place the folder leads to. -/
theorem Under.walk {folder path : List Char} (h : Under folder path) (hne : folder ≠ []) :
    ∃ below, below ≠ [] ∧ (∀ name ∈ below, Plain name) ∧
      ∀ cwd, walk cwd path = walk cwd folder ++ below := by
  obtain ⟨rest, rfl, hnames, hplain⟩ := h
  refine ⟨names rest, hnames, hplain, fun cwd => ?_⟩
  rw [walk_append cwd hne, foldl_enter_plain _ (plain_of_names hplain), names]

theorem names_intercalate {kept : List Segment} (hne : kept ≠ []) (hnil : ∀ name ∈ kept, name ≠ [])
    (hsep : ∀ name ∈ kept, '/' ∉ name) (closed : Bool) :
    names (['/'].intercalate kept ++ separatorIf closed) = kept := by
  have hkept : kept.filter (fun segment => decide (segment ≠ [])) = kept := by
    rw [List.filter_eq_self]
    intro name hname
    exact decide_eq_true (hnil name hname)
  cases closed with
  | false =>
    rw [separatorIf, if_neg Bool.false_ne_true, List.append_nil, names, segments_intercalate hne hsep,
      hkept]
  | true =>
    rw [separatorIf, if_pos rfl, names, segments_append, segments_intercalate hne hsep,
      List.filter_append, hkept]
    exact List.append_nil kept

/-- Names that are put behind a folder are still there after it is normalized. -/
theorem normalize_append {folder file : List Char}
    (hkept : keptSegments folder (!isAbsolute folder) ≠ [])
    (hopen : trailingSeparator folder = false) (hne : names file ≠ [])
    (hplain : ∀ name ∈ names file, Plain name) :
    normalize (folder ++ '/' :: file) = normalize folder ++
      '/' :: (['/'].intercalate (names file) ++ separatorIf (trailingSeparator file)) := by
  have hfolder : folder ≠ [] := by
    rintro rfl
    exact hkept rfl
  have hfile : file ≠ [] := by
    rintro rfl
    exact hne rfl
  have htrailing : trailingSeparator (folder ++ '/' :: file) = trailingSeparator file := by
    rw [trailingSeparator, trailingSeparator, List.getLast?_append_of_ne_nil _ (List.cons_ne_nil _ _),
      List.getLast?_cons_of_ne_nil hfile]
  have habsolute : isAbsolute (folder ++ '/' :: file) = isAbsolute folder :=
    isAbsolute_append hfolder _
  have hboth : keptSegments (folder ++ '/' :: file) (!isAbsolute folder) =
      keptSegments folder (!isAbsolute folder) ++ names file := by
    rw [keptSegments, segments_append, List.foldl_append, foldl_keep_plain _ (plain_of_names hplain)]
    rfl
  have hne' : keptSegments (folder ++ '/' :: file) (!isAbsolute (folder ++ '/' :: file)) ≠ [] := by
    rw [habsolute, hboth]
    exact List.append_ne_nil_of_left_ne_nil hkept _
  rw [normalize_eq hne', habsolute, hboth, htrailing, normalize_eq hkept, hopen,
    intercalate_append hkept hne]
  simp [separatorIf]

/-- What is joined from a base, a folder that ends with a name and names below it is under what is joined
from the base and the folder. -/
theorem under_join (base dir : List Char) {name file : List Char} (hname : Plain name)
    (hsep : '/' ∉ name) (hne : names file ≠ []) (hplain : ∀ name ∈ names file, Plain name) :
    Under (join [base, dir ++ '/' :: name]) (join [base, dir ++ '/' :: name ++ '/' :: file]) := by
  have hopen : trailingSeparator (joinText base dir ++ '/' :: name) = false := by
    obtain ⟨init, last, rfl⟩ := (List.eq_nil_or_concat name).resolve_left hname.ne_nil
    rw [trailingSeparator, List.getLast?_append_of_ne_nil _ (List.cons_ne_nil _ _),
      List.getLast?_cons_of_ne_nil hname.ne_nil, List.concat_eq_append, List.getLast?_concat]
    simpa using fun heq : last = '/' => hsep (by simp [heq])
  have hkept : keptSegments (joinText base dir ++ '/' :: name)
      (!isAbsolute (joinText base dir ++ '/' :: name)) ≠ [] := by
    rw [keptSegments, segments_append, segments_of_not_mem hsep, List.foldl_append, List.foldl_cons,
      List.foldl_nil, keep_plain hname]
    exact List.concat_ne_nil _ _
  rw [join_pair base (by simp), join_pair base (by simp), List.append_assoc, List.cons_append,
    joinText_append, joinText_append, ← List.cons_append, ← List.append_assoc,
    normalize_append hkept hopen hne hplain]
  refine ⟨_, rfl, ?_⟩
  have hnames := names_intercalate hne
    (fun name hname => (hplain name hname).ne_nil)
    (fun name hname => not_mem_of_mem_segments (List.mem_filter.mp hname).1)
  rw [hnames]
  exact ⟨hne, hplain⟩

end Telima.PosixPath
