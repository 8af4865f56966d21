import StyleTokens.Proofs.UriAuthority

namespace StyleTokens.Uri

section Paths

-- What can stand between two slashes of a path whose dots are resolved.
def IsSegment (segment : List Char) : Prop := Plain segment ∧ segment ≠ ['.']

theorem isSegment_nil : IsSegment [] := ⟨plain_nil, by simp⟩

theorem mem_pieces {separator : Char} {text piece : List Char} (member : piece ∈ Name.pieces separator text) :
    separator ∉ piece := by
  induction text generalizing piece with
  | nil =>
    cases List.mem_singleton.mp member
    exact List.not_mem_nil
  | cons c rest ih =>
    unfold Name.pieces at member
    split at member
    · rcases List.mem_cons.mp member with rfl | later
      · exact List.not_mem_nil
      · exact ih later
    · rename_i other
      split at member
      · cases List.mem_singleton.mp member
        simpa using Ne.symm other
      · rename_i first others found
        rcases List.mem_cons.mp member with rfl | later
        · have free := ih (found ▸ List.mem_cons_self)
          simpa [Ne.symm other] using free
        · exact ih (found ▸ List.mem_cons_of_mem _ later)

theorem plain_segments {special : Bool} {text segment : List Char} (member : segment ∈ segments special text) :
    Plain segment := by
  unfold segments at member
  obtain ⟨piece, among, rfl⟩ := List.mem_map.mp member
  refine plain_encode fun c within divides => ?_
  rcases isDivider_iff.mp divides with rfl | rfl | rfl
  · exact absurd within (mem_pieces among)
  · rfl
  · rfl

theorem isSegment_drive {segment : List Char} (plain : Plain segment) : IsSegment (segment.take 1 ++ [':']) := by
  refine ⟨plain_append.mpr ⟨fun c member => plain c (List.mem_of_mem_take member), by simp [isDivider]⟩, ?_⟩
  intro dot
  have last := congrArg List.getLast? dot
  simp at last

theorem isSegment_of_not_dot {segment : List Char} (plain : Plain segment) (other : ¬ isSingleDot segment = true) :
    IsSegment segment := by
  refine ⟨plain, ?_⟩
  rintro rfl
  exact other rfl

namespace Climb

def Resolved (climb : Climb) : Prop := ∀ segment ∈ climb.done, IsSegment segment

theorem Resolved.upward {climb : Climb} (resolved : climb.Resolved) : climb.upward.Resolved := by
  unfold Climb.upward
  split
  · rename_i last earlier found
    split
    · exact resolved
    · exact fun segment member => resolved segment (found ▸ List.mem_cons_of_mem _ member)
  · exact resolved

theorem Resolved.add {climb : Climb} (resolved : climb.Resolved) (isFile : Bool) {segment : List Char}
    (plain : Plain segment) (other : ¬ isSingleDot segment = true) : (climb.add isFile segment).Resolved := by
  unfold Climb.add
  split
  · simpa [Resolved] using isSegment_drive plain
  · exact List.forall_mem_cons.mpr ⟨isSegment_of_not_dot plain other, resolved⟩

theorem Resolved.walk {climb : Climb} (resolved : climb.Resolved) (isFile : Bool) {segments : List (List Char)}
    (plain : ∀ segment ∈ segments, Plain segment) : (climb.walk isFile segments).Resolved := by
  induction segments generalizing climb with
  | nil => exact resolved
  | cons first rest ih =>
    have close {climb : Climb} (resolved : climb.Resolved) :
        Resolved (if rest.isEmpty then { climb with done := [] :: climb.done } else climb) := by
      split
      · exact List.forall_mem_cons.mpr ⟨isSegment_nil, resolved⟩
      · exact resolved
    obtain ⟨plainFirst, plainRest⟩ := List.forall_mem_cons.mp plain
    refine ih ?_ plainRest
    split
    · exact close resolved.upward
    · split
      · exact close resolved
      · rename_i other
        exact resolved.add isFile plainFirst other

end Climb

-- A path of segments.
def IsPath (path : List Char) : Prop :=
  ∃ segments, path = joinSegments segments ∧ ∀ segment ∈ segments, IsSegment segment

theorem isPath_nil : IsPath [] := ⟨[], rfl, List.forall_mem_nil _⟩

theorem isPath_resolvedPath (special : Bool) (text : List Char) : IsPath (resolvedPath special text) := by
  have start : Climb.Resolved {} := List.forall_mem_nil _
  have resolved : Climb.Resolved (Climb.walk false {} (segments special text)) :=
    start.walk false fun _ => plain_segments
  exact ⟨_, rfl, fun segment member => resolved segment (List.mem_reverse.mp member)⟩

theorem isPath_filePath (text : List Char) : IsPath (filePath text).1 := by
  have start : Climb.Resolved {} := List.forall_mem_nil _
  have resolved : Climb.Resolved (Climb.walk true {} (segments true text)) := start.walk true fun _ => plain_segments
  unfold filePath
  dsimp only
  split
  · exact ⟨[[]], rfl, by simp [isSegment_nil]⟩
  · refine ⟨_, rfl, fun segment member => resolved segment (List.mem_reverse.mp ?_)⟩
    exact (List.dropWhile_sublist _).subset member

theorem IsPath.unended {path : List Char} (isPath : IsPath path) : Unended path := by
  obtain ⟨segments, rfl, each⟩ := isPath
  intro c member
  obtain ⟨segment, among, within⟩ := List.mem_flatMap.mp member
  rcases List.mem_cons.mp within with rfl | inside
  · rfl
  · exact (each segment among).1.unended c inside

theorem IsPath.empty_or_slash {path : List Char} (isPath : IsPath path) :
    path = [] ∨ ∃ rest, path = '/' :: rest := by
  obtain ⟨segments, rfl, -⟩ := isPath
  cases segments with
  | nil => exact .inl rfl
  | cons first rest => exact .inr ⟨first ++ joinSegments rest, rfl⟩

-- A path does not start with a dot segment, so such a start can mark a path that begins with two slashes.
theorem IsPath.not_dot {path : List Char} (isPath : IsPath path) (rest : List Char) :
    path ≠ '/' :: '.' :: '/' :: rest := by
  obtain ⟨segments, rfl, each⟩ := isPath
  cases segments with
  | nil => simp [joinSegments]
  | cons first others =>
    obtain ⟨plain, notDot⟩ := each first List.mem_cons_self
    intro same
    have written : first ++ joinSegments others = '.' :: '/' :: rest := (List.cons.inj same).2
    rcases first with _ | ⟨c, _ | ⟨d, more⟩⟩
    · cases others with
      | nil => cases written
      | cons second more => cases (List.cons.inj written).1
    · cases (List.cons.inj written).1
      exact notDot rfl
    · have second : d = '/' := (List.cons.inj (List.cons.inj written).2).1
      have inside := plain d (by simp)
      rw [second] at inside
      cases inside

-- The path, read off the text between the scheme's colon and the query.
def pathOf : List Char → List Char
  | '/' :: '/' :: rest => rest.dropWhile (· ≠ '/')
  | '/' :: '.' :: '/' :: rest => '/' :: rest
  | text => text

structure Place.Legible (place : Place) : Prop where
  unended : Unended place.text
  path : pathOf place.text = place.path

theorem legible_at {authority path : List Char} (plain : Plain authority) (isPath : IsPath path) :
    (Place.at authority path).Legible := by
  have host : ∀ c ∈ authority, decide (c ≠ '/') = true := by
    intro c member
    have inside := plain c member
    simp only [isDivider, Bool.or_eq_false_iff] at inside
    simpa using inside.1.1
  refine ⟨?_, ?_⟩
  · simp [Place.at, plain.unended, isPath.unended, endsPath]
  · have skipped : (authority ++ path).dropWhile (· ≠ '/') = path := by
      rw [List.dropWhile_append_of_pos host]
      rcases isPath.empty_or_slash with rfl | ⟨rest, rfl⟩
      · rfl
      · simp
    simpa [Place.at, pathOf] using skipped

theorem legible_filePlace {text : List Char} {place : Place} (read : filePlace text = .ok place) : place.Legible := by
  unfold filePlace at read
  have finish (host after : List Char) (isLocal : Bool) (plain : Plain host)
      (read : (if isLocal = true then pure (Place.at [] (filePath after).1)
        else pure (Place.at (if (filePath (after.drop 1)).2 = true then [] else host) (filePath (after.drop 1)).1)) =
          (Except.ok place : Except UriError Place)) : place.Legible := by
    split at read
    · cases read
      exact legible_at plain_nil (isPath_filePath _)
    · cases read
      refine legible_at ?_ (isPath_filePath _)
      split
      · exact plain_nil
      · exact plain
  split at read
  · split at read
    · dsimp only at read
      split at read
      · cases read
        exact legible_at plain_nil (isPath_filePath _)
      · split at read
        · obtain ⟨host, none, read⟩ := bind_eq_ok read
          cases none
          exact finish [] _ _ plain_nil read
        · obtain ⟨host, named, read⟩ := bind_eq_ok read
          exact finish host _ _ (plain_namedHost named) read
    · cases read
      exact legible_at plain_nil (isPath_filePath _)
  · cases read
    exact legible_at plain_nil (isPath_filePath _)

theorem legible_webPlace {scheme : String} {last : Bool} {text : List Char} {place : Place}
    (read : webPlace scheme last text = .ok place) : place.Legible := by
  obtain ⟨⟨authority, rest⟩, took, read⟩ := bind_eq_ok read
  cases read
  exact legible_at (plain_takeAuthority took) (isPath_resolvedPath true _)

theorem loop_filled (bytes : ByteArray) (i : Nat) {done : List UInt8} (filled : done ≠ []) :
    ByteArray.toList.loop bytes i done ≠ [] := by
  fun_induction ByteArray.toList.loop bytes i done with
  | case1 i done more ih => exact ih (by simp)
  | case2 i done all => simpa using filled

theorem toUTF8_filled (c : Char) : c.toString.toUTF8.toList ≠ [] := by
  have size : 0 < c.toString.toUTF8.size := by
    rw [String.toUTF8_eq_toByteArray, String.size_toByteArray, Char.toString, String.utf8ByteSize_singleton]
    exact c.utf8Size_pos
  unfold ByteArray.toList ByteArray.toList.loop
  rw [if_pos size]
  exact loop_filled _ _ (by simp)

-- An escape starts with a percent sign, so a slash in front was there before.
theorem head_encode {test : Char → Bool} {text rest : List Char} (slash : encode test text = '/' :: rest) :
    ∃ after, text = '/' :: after := by
  cases text with
  | nil => cases slash
  | cons c after =>
    rw [encode, List.flatMap_cons, encodeChar] at slash
    split at slash
    · obtain ⟨byte, bytes, written⟩ := List.exists_cons_of_ne_nil (toUTF8_filled c)
      rw [written] at slash
      cases (List.cons.inj slash).1
    · cases (List.cons.inj slash).1
      exact ⟨after, rfl⟩

theorem legible_path {path : List Char} (isPath : IsPath path) :
    Place.Legible ⟨if path.take 2 == ['/', '/'] then '/' :: '.' :: path else path, path⟩ := by
  by_cases doubled : path.take 2 = ['/', '/']
  · rw [doubled, beq_self_eq_true, if_pos rfl]
    refine ⟨by simp [isPath.unended, endsPath], ?_⟩
    rcases path with _ | ⟨c, _ | ⟨d, rest⟩⟩
    · cases doubled
    · cases doubled
    · cases doubled
      rfl
  · rw [beq_false_of_ne doubled]
    refine ⟨isPath.unended, ?_⟩
    change pathOf path = path
    unfold pathOf
    split
    · exact absurd rfl doubled
    · exact absurd rfl (isPath.not_dot _)
    · rfl

theorem legible_plainPlace {scheme : String} {last : Bool} {text : List Char} {place : Place} (unended : Unended text)
    (read : plainPlace scheme last text = .ok place) : place.Legible := by
  unfold plainPlace at read
  split at read
  · obtain ⟨⟨authority, rest⟩, took, read⟩ := bind_eq_ok read
    dsimp only at read
    split at read
    · cases read
      exact legible_at (plain_takeAuthority took) isPath_nil
    · cases read
      exact legible_at (plain_takeAuthority took) (isPath_resolvedPath false _)
  · cases read
    exact legible_path (isPath_resolvedPath false _)
  · rename_i noSlash
    cases read
    refine ⟨unended_encode unended, ?_⟩
    unfold pathOf
    split
    · rename_i rest slash
      obtain ⟨after, rfl⟩ := head_encode slash
      exact absurd rfl (noSlash after)
    · rename_i rest slash
      obtain ⟨after, rfl⟩ := head_encode slash
      exact absurd rfl (noSlash after)
    · rfl

end Paths

section Texts

theorem eq_colon_of_toLower {c : Char} (lower : c.toLower = ':') : c = ':' := by
  unfold Char.toLower at lower
  split at lower
  · rename_i upper
    have bounds : 65 ≤ c.val.toNat ∧ c.val.toNat ≤ 90 :=
      ⟨UInt32.le_iff_toNat_le.mp upper.1, UInt32.le_iff_toNat_le.mp upper.2⟩
    have code : (c.val.toNat + 32) % 4294967296 = 58 := congrArg (fun c => c.val.toNat) lower
    omega
  · exact lower

-- The path, read off the whole text.
def pathIn (text : List Char) : List Char :=
  pathOf (((text.dropWhile (· ≠ ':')).drop 1).takeWhile (!endsPath ·))

theorem takeScheme?_free {text rest : List Char} {scheme : String} (found : takeScheme? text = some (scheme, rest)) :
    ':' ∉ scheme.toList := by
  unfold takeScheme? at found
  split at found
  · split at found
    · rename_i c others letter
      split at found
      · cases found
        rw [String.toList_ofList, List.mem_map]
        rintro ⟨source, among, lower⟩
        cases eq_colon_of_toLower lower
        rcases List.mem_cons.mp among with rfl | later
        · cases letter
        · have follows := List.all_eq_true.mp (List.all_takeWhile (p := isSchemeRest) (l := others)) ':' later
          cases follows
      · cases found
    · cases found
  · cases found

theorem breakAt_rest (test : Char → Bool) (text : List Char) :
    (breakAt test text).2 = [] ∨ ∃ c after, (breakAt test text).2 = c :: after ∧ test c = true := by
  cases rest : (breakAt test text).2 with
  | nil => exact .inl rfl
  | cons c after =>
    have stops := List.head?_dropWhile_not (!test ·) text
    have head : (text.dropWhile (!test ·)).head? = some c := congrArg List.head? rest
    rw [head] at stops
    exact .inr ⟨c, after, rfl, by simpa using stops⟩

theorem mem_breakAt {test : Char → Bool} {text : List Char} {c : Char} (member : c ∈ (breakAt test text).1) :
    c ∈ text ∧ test c = false := by
  have passes := List.all_eq_true.mp (List.all_takeWhile (p := (!test ·)) (l := text)) c member
  exact ⟨(List.takeWhile_sublist _).subset member, by simpa using passes⟩

theorem takeWhile_unended {text rest : List Char} (unended : Unended text)
    (ends : rest = [] ∨ ∃ c after, rest = c :: after ∧ endsPath c = true) :
    (text ++ rest).takeWhile (!endsPath ·) = text := by
  have passes : ∀ c ∈ text, (!endsPath c) = true := by
    intro c member
    rw [unended c member]
    rfl
  rw [List.takeWhile_append_of_pos passes]
  rcases ends with rfl | ⟨c, after, rfl, stops⟩
  · simp
  · rw [List.takeWhile_cons_of_neg (by simp [stops]), List.append_nil]

-- Whatever is made of the place, the place is one of three.
theorem legible_place {scheme : String} {last : Bool} {text : List Char} {make : Place → Form} {form : Form}
    (unended : Unended text)
    (read : (if (scheme == "file") = true then do
          let place ← filePlace text
          pure (make place)
        else if isSpecial scheme = true then do
          let place ← webPlace scheme last text
          pure (make place)
        else do
          let place ← plainPlace scheme last text
          pure (make place)) = Except.ok form) : ∃ place : Place, place.Legible ∧ make place = form := by
  split at read
  · obtain ⟨place, took, made⟩ := bind_eq_ok read
    exact ⟨place, legible_filePlace took, Except.ok.inj made⟩
  · split at read
    · obtain ⟨place, took, made⟩ := bind_eq_ok read
      exact ⟨place, legible_webPlace took, Except.ok.inj made⟩
    · obtain ⟨place, took, made⟩ := bind_eq_ok read
      exact ⟨place, legible_plainPlace unended took, Except.ok.inj made⟩

theorem normalize_parts {written : String} {form : Form} (read : normalize written = .ok form) :
    ∃ (scheme : List Char) (place : Place) (ends : List Char), ':' ∉ scheme ∧ place.Legible ∧
      (ends = [] ∨ ∃ c after, ends = c :: after ∧ endsPath c = true) ∧
      form.text.toList = scheme ++ ':' :: (place.text ++ ends) ∧ form.path.toList = place.path := by
  unfold normalize at read
  split at read
  · cases read
  · rename_i scheme rest tookScheme
    have unended : Unended (breakAt (· == '?') (breakAt (· == '#') rest).1).1 := by
      intro c member
      obtain ⟨inner, notQuery⟩ := mem_breakAt member
      simp only [endsPath, notQuery, (mem_breakAt inner).2, Bool.or_false]
    have query := breakAt_rest (· == '?') (breakAt (· == '#') rest).1
    have fragment := breakAt_rest (· == '#') rest
    dsimp only at read
    generalize (breakAt (· == '?') (breakAt (· == '#') rest).1).2 = queryText at read query
    generalize (breakAt (· == '#') rest).2 = fragmentText at read fragment
    obtain ⟨place, legible, rfl⟩ := legible_place unended read
    refine ⟨scheme.toList, place, ?ends, takeScheme?_free tookScheme, legible, ?ended, ?text, String.toList_ofList⟩
    case text => rw [String.toList_ofList, List.append_assoc, List.append_assoc, List.cons_append]
    case ended =>
      rcases query with rfl | ⟨c, after, rfl, isQuery⟩
      · rcases fragment with rfl | ⟨c, after, rfl, isFragment⟩
        · exact .inl rfl
        · exact .inr ⟨c, _, rfl, by rw [endsPath, isFragment, Bool.or_true]⟩
      · exact .inr ⟨c, _, rfl, by rw [endsPath, isQuery, Bool.true_or]⟩

theorem path_eq (uri : Uri) : uri.path.toList = pathIn uri.text.toList := by
  obtain ⟨written, read⟩ := uri.isRead
  obtain ⟨scheme, place, ends, free, legible, ended, text, path⟩ := normalize_parts read
  have passes : ∀ c ∈ scheme, decide (c ≠ ':') = true := by
    intro c member
    have other : c ≠ ':' := fun same => free (same ▸ member)
    simpa using other
  have afterScheme : (uri.text.toList.dropWhile (· ≠ ':')).drop 1 = place.text ++ ends := by
    rw [text, List.dropWhile_append_of_pos passes]
    simp
  rw [pathIn, afterScheme, takeWhile_unended legible.unended ended, legible.path, path]

theorem eq_of_text {one other : Uri} (same : one.text = other.text) : one = other := by
  have paths : one.path.toList = other.path.toList := by rw [path_eq, path_eq, same]
  obtain ⟨⟨text, path⟩, isRead⟩ := one
  obtain ⟨⟨text', path'⟩, isRead'⟩ := other
  cases same
  cases String.toList_injective paths
  rfl

end Texts

end StyleTokens.Uri
