import NewGrf.Sprite.Cache

namespace NewGrf.Path

variable {path folder : String} {absolute : Bool}

theorem isAbsolute_iff : isAbsolute path = true ↔ path.toList.head? = some '/' := by
  rw [isAbsolute, String.startsWith_string_iff]
  cases path.toList <;> simp [eq_comm]

theorem isAbsolute_eq_false_iff : isAbsolute path = false ↔ path.toList.head? ≠ some '/' := by
  rw [← Bool.not_eq_true, isAbsolute_iff]

theorem isAbsolute_of_noSlash (none : '/' ∉ path.toList) : isAbsolute path = false :=
  isAbsolute_eq_false_iff.2 fun first => none (List.mem_of_head? first)

theorem endsWith_slash_iff : folder.endsWith "/" = true ↔ ∃ a, folder = a ++ "/" := by
  rw [String.endsWith_eq_endsWith_toSlice, String.Slice.endsWith_string_iff, String.copy_toSlice]
  constructor
  · rintro ⟨cs, written⟩
    exact ⟨String.ofList cs, by rw [← String.toList_inj, ← written]; simp⟩
  · rintro ⟨a, rfl⟩
    exact ⟨a.toList, by simp⟩

/-- Joining a relative path: the folder, a slash if it has none at the end, and the path. -/
theorem join_cases (folder : String) (relative : isAbsolute path = false) :
    (folder = "" ∧ join folder path = path) ∨
      (∃ a, folder = a ++ "/" ∧ join folder path = a ++ "/" ++ path) ∨
      (folder ≠ "" ∧ folder.endsWith "/" = false ∧ join folder path = folder ++ "/" ++ path) := by
  rw [join, relative, Bool.false_or]
  by_cases empty : folder = ""
  · exact .inl ⟨empty, if_pos (String.isEmpty_iff.2 empty)⟩
  · rw [if_neg (by rwa [String.isEmpty_iff])]
    by_cases closed : folder.endsWith "/" = true
    · obtain ⟨a, rfl⟩ := endsWith_slash_iff.1 closed
      exact .inr (.inl ⟨a, rfl, if_pos closed⟩)
    · exact .inr (.inr ⟨empty, Bool.eq_false_iff.2 closed, if_neg closed⟩)

theorem join_append {name more : String} (relative : isAbsolute name = false)
    (whole : isAbsolute (name ++ more) = false) :
    join folder name ++ more = join folder (name ++ more) := by
  rw [join, join, relative, whole]
  split
  · rfl
  · split <;> simp only [String.append_assoc]

theorem isAbsolute_join (relative : isAbsolute path = false) :
    isAbsolute (join folder path) = isAbsolute folder := by
  rw [Bool.eq_iff_iff, isAbsolute_iff, isAbsolute_iff]
  obtain ⟨rfl, joined⟩ | ⟨a, rfl, joined⟩ | ⟨full, -, joined⟩ :=
    join_cases folder relative
  · rw [joined]
    simpa using isAbsolute_eq_false_iff.1 relative
  · rw [joined]
    simp
  · rw [joined]
    have : folder.toList ≠ [] := by simpa using full
    cases cs : folder.toList <;> simp_all

theorem segments_slash (a b : String) : segments (a ++ "/" ++ b) = segments a ++ segments b := by
  have slash : ("/" : String).toList = ['/'] := rfl
  rw [segments, String.toList_append, String.toList_append, slash, List.append_assoc,
    List.singleton_append, List.splitOn, List.splitOnP_append_cons _ _ (by decide), List.map_append]
  rfl

theorem segments_of_noSlash (none : '/' ∉ path.toList) : segments path = [path] := by
  rw [segments, List.splitOn_eq_singleton none, List.map_singleton, String.ofList_toList]

theorem foldl_segments_empty (acc : List String) :
    (segments "").foldl (addPart absolute) acc = acc := rfl

/-- The segments of a relative path come behind those of the folder. -/
theorem foldl_segments_join (relative : isAbsolute path = false) (acc : List String) :
    (segments (join folder path)).foldl (addPart absolute) acc =
      (segments path).foldl (addPart absolute)
        ((segments folder).foldl (addPart absolute) acc) := by
  obtain ⟨rfl, joined⟩ | ⟨a, rfl, joined⟩ | ⟨full, -, joined⟩ :=
    join_cases folder relative
  · rw [joined, foldl_segments_empty]
  · have closed : segments (a ++ "/") = segments a ++ segments "" := by
      rw [← segments_slash, String.append_empty]
    rw [joined, segments_slash, closed, List.foldl_append, List.foldl_append, foldl_segments_empty]
  · rw [joined, segments_slash, List.foldl_append]

/-- A segment that is a part of the path it stands in. -/
def isName (segment : String) : Bool := !(segment.isEmpty || segment == ".")

theorem foldl_addPart {segments : List String} (down : ".." ∉ segments) (acc : List String) :
    segments.foldl (addPart absolute) acc = (segments.filter isName).reverse ++ acc := by
  induction segments generalizing acc with
  | nil => rfl
  | cons p rest ih =>
    rw [List.mem_cons, not_or] at down
    obtain ⟨notUp, down⟩ := down
    rw [List.foldl_cons, ih down]
    by_cases name : isName p = true
    · have kept : addPart absolute acc p = p :: acc := by
        rw [isName, Bool.not_eq_true'] at name
        unfold addPart
        rw [name, if_neg Bool.false_ne_true, if_neg (by simpa using Ne.symm notUp)]
      rw [List.filter_cons_of_pos name, List.reverse_cons, kept, List.append_assoc,
        List.singleton_append]
    · have left : addPart absolute acc p = acc := by
        rw [isName, Bool.not_eq_true', Bool.not_eq_false] at name
        unfold addPart
        rw [name, if_pos rfl]
      rw [List.filter_cons_of_neg name, left]

/-- Joining a relative path that does not lead upwards adds its names to the parts of the folder. -/
theorem parts_join (relative : isAbsolute path = false) (down : ".." ∉ segments path) :
    parts (join folder path) = parts folder ++ (segments path).filter isName := by
  rw [parts, isAbsolute_join relative, foldl_segments_join relative, foldl_addPart down,
    List.reverse_append, List.reverse_reverse]
  rfl

/-- A segment is a piece of the path without slashes; the first one stands at its start. -/
theorem splitOn_slash (cs : List Char) : ∃ first rest, cs.splitOn '/' = first :: rest ∧
    first <+: cs ∧ '/' ∉ first ∧ ∀ p ∈ rest, p <:+: cs ∧ '/' ∉ p := by
  induction cs with
  | nil =>
    exact ⟨[], [], rfl, List.prefix_rfl, List.not_mem_nil,
      fun p mem => absurd mem List.not_mem_nil⟩
  | cons c cs ih =>
    obtain ⟨first, rest, split, start, free, inner⟩ := ih
    rw [List.splitOn] at split ⊢
    rw [List.splitOnP_cons_eq_if_modifyHead, split]
    have further (p : List Char) (mem : p ∈ rest) : p <:+: c :: cs ∧ '/' ∉ p :=
      ⟨(inner p mem).1.trans (List.suffix_cons c cs).isInfix, (inner p mem).2⟩
    by_cases slash : c = '/'
    · refine ⟨[], first :: rest, if_pos (by simpa using slash), List.nil_prefix,
        List.not_mem_nil, ?_⟩
      exact List.forall_mem_cons.2
        ⟨⟨start.isInfix.trans (List.suffix_cons c cs).isInfix, free⟩, further⟩
    · refine ⟨c :: first, rest, if_neg (by simpa using slash),
        List.cons_prefix_cons.2 ⟨rfl, start⟩, ?_, further⟩
      rw [List.mem_cons, not_or]
      exact ⟨Ne.symm slash, free⟩

theorem segment_within {p : String} (mem : p ∈ segments path) :
    p.toList <:+: path.toList ∧ '/' ∉ p.toList := by
  obtain ⟨first, rest, split, start, free, inner⟩ := splitOn_slash path.toList
  rw [segments, split, List.map_cons, List.mem_cons, List.mem_map] at mem
  obtain rfl | ⟨q, mem, rfl⟩ := mem
  · rw [String.toList_ofList]
    exact ⟨start.isInfix, free⟩
  · rw [String.toList_ofList]
    exact inner q mem

theorem head?_withoutParents (cs : List Char) :
    (withoutParents cs).head? = some '/' ↔ cs.head? = some '/' := by
  fun_cases withoutParents cs <;> simp

theorem not_infix_withoutParents (cs : List Char) : ¬['.', '.'] <:+: withoutParents cs := by
  fun_induction withoutParents cs with
  | case1 rest ih =>
    rw [List.infix_cons_iff, List.infix_cons_iff]
    simpa using ih
  | case2 c rest single ih =>
    rw [List.infix_cons_iff, not_or]
    refine ⟨fun start => ?_, ih⟩
    obtain ⟨rfl, next⟩ := List.cons_prefix_cons.1 start
    -- A dot that stays is not followed by another one.
    cases rest with
    | nil => simp [withoutParents] at next
    | cons d rest =>
      have other : d ≠ '.' := fun dot => single rest rfl (by rw [dot])
      have kept : withoutParents (d :: rest) = d :: withoutParents rest := by
        simp [withoutParents, other]
      rw [kept] at next
      exact other (List.cons_prefix_cons.1 next).1.symm
  | case3 => simp

theorem up_not_mem_segments_confined (path : String) : ".." ∉ segments (confined path) := by
  intro mem
  have found : ['.', '.'] <:+: withoutParents path.toList := by
    simpa [confined] using (segment_within mem).1
  exact not_infix_withoutParents path.toList found

theorem isAbsolute_confined (path : String) : isAbsolute (confined path) = isAbsolute path := by
  rw [Bool.eq_iff_iff, isAbsolute_iff, isAbsolute_iff, confined, String.toList_ofList,
    head?_withoutParents]

theorem mem_foldl_addPart {segments acc : List String} {p : String}
    (mem : p ∈ segments.foldl (addPart absolute) acc) : p ∈ acc ∨ (p ∈ segments ∧ p ≠ "") := by
  induction segments generalizing acc with
  | nil => exact .inl mem
  | cons q rest ih =>
    obtain mem | ⟨mem, full⟩ := ih mem
    · have step : p ∈ acc ∨ (p = q ∧ p ≠ "") := by
        unfold addPart at mem
        grind [String.isEmpty_iff]
      obtain mem | ⟨rfl, full⟩ := step
      · exact .inl mem
      · exact .inr ⟨List.mem_cons_self, full⟩
    · exact .inr ⟨List.mem_cons_of_mem q mem, full⟩

theorem parts_plain {p : String} (mem : p ∈ parts path) : p ≠ "" ∧ '/' ∉ p.toList := by
  obtain mem | ⟨mem, full⟩ := mem_foldl_addPart (List.mem_reverse.1 mem)
  · cases mem
  · exact ⟨full, (segment_within mem).2⟩

/-- How many slashes a path starts with. -/
def leading (path : String) : Nat := (path.toList.takeWhile (· == '/')).length

theorem replicate_prefix_iff (n : Nat) (cs : List Char) :
    List.replicate n '/' <+: cs ↔ n ≤ (cs.takeWhile (· == '/')).length := by
  induction cs generalizing n with
  | nil => cases n <;> simp [List.replicate_succ]
  | cons c cs ih =>
    cases n with
    | zero => simp
    | succ n =>
      rw [List.replicate_succ, List.cons_prefix_cons, ih, List.takeWhile_cons]
      by_cases slash : c = '/'
      · simp [slash]
      · simp [slash, Ne.symm slash]

theorem root_eq (path : String) : root path =
    if 3 ≤ leading path then "/" else if 2 ≤ leading path then "//"
    else if 1 ≤ leading path then "/" else "" := by
  have starts (n : Nat) (pattern : String) (written : pattern.toList = List.replicate n '/') :
      path.startsWith pattern = decide (n ≤ leading path) := by
    rw [Bool.eq_iff_iff, String.startsWith_string_iff, written, replicate_prefix_iff,
      decide_eq_true_iff]
    rfl
  rw [root, starts 3 "///" rfl, starts 2 "//" rfl, starts 1 "/" rfl]
  simp only [decide_eq_true_eq]

theorem takeWhile_of_relative (relative : isAbsolute path = false) :
    path.toList.takeWhile (· == '/') = [] := by
  have first := isAbsolute_eq_false_iff.1 relative
  cases cs : path.toList with
  | nil => rfl
  | cons c rest =>
    rw [cs] at first
    exact List.takeWhile_cons_of_neg (by simpa using first)

theorem root_of_relative (relative : isAbsolute path = false) : root path = "" := by
  have none : leading path = 0 := by rw [leading, takeWhile_of_relative relative, List.length_nil]
  rw [root_eq, none]
  rfl

theorem head?_root (absolute : isAbsolute path = true) : (root path).toList.head? = some '/' := by
  have start : path.startsWith "/" = true := absolute
  unfold root
  rw [start, if_pos rfl]
  repeat' split
  all_goals rfl

/-- Parts that are joined start with the first one, if it is not empty. -/
theorem head?_intercalate {p : String} (full : p ≠ "") (ps : List String) :
    ("/".intercalate (p :: ps)).toList.head? = p.toList.head? := by
  obtain ⟨c, cs, written⟩ := List.exists_cons_of_ne_nil (by simpa using full : p.toList ≠ [])
  cases ps <;> simp [String.toList_intercalate, List.intercalate, written]

/-- Normalizing keeps absolute paths absolute, and relative ones relative. -/
theorem isAbsolute_normalize (path : String) : isAbsolute (normalize path) = isAbsolute path := by
  have whole : normalize path = if root path ++ "/".intercalate (parts path) = "" then "."
      else root path ++ "/".intercalate (parts path) := by
    unfold normalize
    split <;> simp_all
  rw [whole]
  cases absolute : isAbsolute path with
  | true =>
    have first := head?_root absolute
    have full : root path ++ "/".intercalate (parts path) ≠ "" := by
      intro empty
      rw [String.append_eq_empty_iff] at empty
      rw [empty.1] at first
      cases first
    rw [if_neg full, isAbsolute_iff, String.toList_append, List.head?_append, first]
    rfl
  | false =>
    rw [root_of_relative absolute, String.empty_append]
    split
    · exact isAbsolute_of_noSlash (by decide)
    · rw [isAbsolute_eq_false_iff]
      cases known : parts path with
      | nil => decide
      | cons p ps =>
        obtain ⟨full, free⟩ : p ≠ "" ∧ '/' ∉ p.toList :=
          parts_plain (by rw [known]; exact List.mem_cons_self)
        rw [head?_intercalate full]
        exact fun first => free (List.mem_of_head? first)

/-- A list is cut where a property first fails from behind. -/
theorem dropWhile_append_takeWhile (f : Char → Bool) (cs : List Char) :
    (cs.reverse.dropWhile f).reverse ++ (cs.reverse.takeWhile f).reverse = cs := by
  rw [← List.reverse_append, List.takeWhile_append_dropWhile, List.reverse_reverse]

theorem noSlash_split (path : String) : '/' ∉ (split path).2.toList := by
  have name : (split path).2 =
      String.ofList (path.toList.reverse.takeWhile (· != '/')).reverse := by
    unfold split
    dsimp only
    split <;> rfl
  rw [name, String.toList_ofList, List.mem_reverse]
  intro mem
  have := List.all_eq_true.1 List.all_takeWhile _ mem
  simp at this

theorem isAbsolute_split (path : String) : isAbsolute (split path).1 = isAbsolute path := by
  have whole := dropWhile_append_takeWhile (· != '/') path.toList
  have free := noSlash_split path
  unfold split at free ⊢
  dsimp only at free ⊢
  generalize (path.toList.reverse.takeWhile (· != '/')).reverse = name at whole free ⊢
  generalize (path.toList.reverse.dropWhile (· != '/')).reverse = before at whole free ⊢
  have start : before.head? = some '/' ↔ path.toList.head? = some '/' := by
    rw [← whole]
    cases before with
    | cons c cs => rfl
    | nil =>
      have free : '/' ∉ name := by simpa using free
      simpa using fun first => free (List.mem_of_head? first)
  rw [Bool.eq_iff_iff, isAbsolute_iff, isAbsolute_iff, ← start]
  split
  · rw [String.toList_ofList]
  · rename_i other
    -- What is left without slashes at the end still has the first character.
    have rest := dropWhile_append_takeWhile (· == '/') before
    have full : before.reverse.dropWhile (· == '/') ≠ [] := by
      intro empty
      rw [empty, List.reverse_nil, List.nil_append] at rest
      exact other (by rw [← rest, List.all_reverse]; exact List.all_takeWhile)
    obtain ⟨c, cs, written⟩ := List.exists_cons_of_ne_nil (mt List.reverse_eq_nil_iff.1 full)
    have first := congrArg List.head? rest
    rw [written] at first
    rw [String.toList_ofList, written, ← first]
    rfl

/-- A path below a folder, when both are normalized. -/
structure Below (folder path : String) : Prop where
  root : root path = root folder
  parts : ∃ rest, rest ≠ [] ∧ ".." ∉ rest ∧ parts path = parts folder ++ rest

/-- A folder that does not end in a slash has another character. -/
theorem takeWhile_slash_ne (full : folder ≠ "") (opened : folder.endsWith "/" = false) :
    (folder.toList.takeWhile (· == '/')).length ≠ folder.toList.length := by
  intro all
  have whole := (List.takeWhile_prefix (· == '/')).eq_of_length all
  obtain empty | ⟨before, c, written⟩ := List.eq_nil_or_concat folder.toList
  · exact full (by simpa using empty)
  have slash : c = '/' := by
    have slashes : folder.toList.all (· == '/') = true := by
      rw [← whole]
      exact List.all_takeWhile
    rw [written] at slashes
    simpa using List.all_eq_true.1 slashes c (by simp)
  have closed : folder.endsWith "/" = true := endsWith_slash_iff.2
    ⟨String.ofList before, by rw [← String.toList_inj, written, slash]; simp⟩
  rw [opened] at closed
  cases closed

theorem root_join (relative : isAbsolute path = false) : root (join folder path) = root folder := by
  have same : leading (join folder path) = leading folder := by
    have none := takeWhile_of_relative relative
    unfold leading
    obtain ⟨rfl, joined⟩ | ⟨a, rfl, joined⟩ | ⟨full, opened, joined⟩ := join_cases folder relative
    · rw [joined, none]
      rfl
    · rw [joined, String.toList_append, List.takeWhile_append, none, List.append_nil]
      split
      · rename_i all
        exact all.symm
      · rfl
    · rw [joined, String.append_assoc, String.toList_append, List.takeWhile_append,
        if_neg (takeWhile_slash_ne full opened)]
  rw [root_eq, root_eq, same]

/-- Two relative paths, one behind the other, that do not lead upwards and end in a name. -/
theorem below_join_join {name : String} (relative : isAbsolute path = false)
    (down : ".." ∉ segments path) (free : '/' ∉ name.toList) (own : isName name = true)
    (notUp : name ≠ "..") : Below folder (join (join folder path) name) := by
  have named := isAbsolute_of_noSlash free
  have single := segments_of_noSlash free
  refine ⟨by rw [root_join named, root_join relative],
    (segments path).filter isName ++ [name], ?_, ?_, ?_⟩
  · exact List.append_ne_nil_of_right_ne_nil _ (List.cons_ne_nil _ _)
  · rw [List.mem_append, List.mem_singleton, not_or]
    exact ⟨fun mem => down (List.mem_filter.1 mem).1, Ne.symm notUp⟩
  · rw [parts_join named (by rw [single, List.mem_singleton]; exact Ne.symm notUp), single,
      parts_join relative down, List.filter_cons_of_pos own, List.filter_nil, List.append_assoc]

end NewGrf.Path

namespace NewGrf.SpriteCache

variable {first extension : String} {others : List String}

/-- The name of a file: the names of all images and the extension. -/
def fileName (first : String) (others : List String) (extension : String) : String :=
  (Path.split first).2 ++ (String.join (others.map fun o => "_" ++ (Path.split o).2) ++ extension)

theorem noSlash_fileName (plain : '/' ∉ extension.toList) :
    '/' ∉ (fileName first others extension).toList := by
  simp only [fileName, String.toList_append, String.toList_join, List.mem_append, not_or]
  refine ⟨Path.noSlash_split first, fun mem => ?_, plain⟩
  simp only [List.mem_flatMap, List.mem_map] at mem
  obtain ⟨_, ⟨o, -, rfl⟩, mem⟩ := mem
  rw [String.toList_append, List.mem_append] at mem
  obtain mem | mem := mem
  · exact absurd mem (by decide)
  · exact Path.noSlash_split o mem

theorem path_eq (plain : '/' ∉ extension.toList) (folder : String) :
    path folder (first :: others) extension =
      Path.join (Path.join folder (Path.confined (Path.normalize (Path.split first).1)))
        (fileName first others extension) := by
  have named := Path.isAbsolute_of_noSlash (Path.noSlash_split first)
  rw [fileName, ← Path.join_append named (Path.isAbsolute_of_noSlash (noSlash_fileName plain)),
    ← String.append_assoc]
  rfl

/-- An image with a relative path has its file below the folder for all of them, whatever folder
that is. The file of an image with an absolute path does not depend on the folder. -/
theorem file_below_folder (plain : '/' ∉ extension.toList) (long : 2 < extension.length)
    (folder : String) :
    (Path.isAbsolute first = false →
      Path.Below folder (path folder (first :: others) extension)) ∧
    (Path.isAbsolute first = true → ∀ other,
      path folder (first :: others) extension = path other (first :: others) extension) := by
  rw [path_eq plain]
  have start : Path.isAbsolute (Path.confined (Path.normalize (Path.split first).1)) =
      Path.isAbsolute first := by
    rw [Path.isAbsolute_confined, Path.isAbsolute_normalize, Path.isAbsolute_split]
  refine ⟨fun relative => ?_, fun absolute other => ?_⟩
  · have size : 2 < (fileName first others extension).length := by
      simp only [fileName, String.length_append]
      omega
    rw [relative] at start
    have other (name : String) (short : name.length ≤ 2) :
        fileName first others extension ≠ name := by
      rintro rfl
      omega
    refine Path.below_join_join start (Path.up_not_mem_segments_confined _) (noSlash_fileName plain)
      ?_ (other ".." (by decide))
    simpa [Path.isName] using ⟨other "" (by decide), other "." (by decide)⟩
  · have alone (f : String) : Path.join f (Path.confined (Path.normalize (Path.split first).1)) =
        Path.confined (Path.normalize (Path.split first).1) := by
      rw [Path.join, start, absolute]
      rfl
    rw [path_eq plain, alone, alone]

/-- A path with every way to lead upwards, and its file. -/
theorem upward_image_below_folder :
    path "/home/.cache" ["../a/../../b..c/./i.png", "../m.png"] ".cacheindex" =
      "/home/.cache/__/__/b__c/i.png_m.png.cacheindex" ∧
    Path.Below "/home/.cache"
      (path "/home/.cache" ["../a/../../b..c/./i.png", "../m.png"] ".cacheindex") :=
  ⟨by decide +kernel, (file_below_folder (by decide) (by decide) _).1 (by decide +kernel)⟩

/-- The file of an image with an absolute path is beside the image. -/
theorem absolute_image_outside_folder :
    path "/home/.cache" ["/tmp/pictures/a.png"] ".cache" = "/tmp/pictures/a.png.cache" ∧
    ¬Path.Below "/home/.cache" (path "/home/.cache" ["/tmp/pictures/a.png"] ".cache") := by
  have file : path "/home/.cache" ["/tmp/pictures/a.png"] ".cache" =
      "/tmp/pictures/a.png.cache" := by
    decide +kernel
  refine ⟨file, fun below => ?_⟩
  obtain ⟨rest, -, -, parts⟩ := below.parts
  rw [file, show Path.parts "/tmp/pictures/a.png.cache" = ["tmp", "pictures", "a.png.cache"] by
      decide +kernel,
      show Path.parts "/home/.cache" = ["home", ".cache"] by decide +kernel] at parts
  simp at parts

end NewGrf.SpriteCache
