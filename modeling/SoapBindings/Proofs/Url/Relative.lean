/-
# `SoapBindings.Proofs.Url.Relative` — where plain references lead

A reference that holds only what a file name may hold, and slashes, keeps its last segment when it
is read against a base: the path of the URL ends in what the reference ends in (`read_plain`).  Dots
are no segment, and leave an empty one.

Whatever stands in front, drives and steps up included, gives way or is climbed out of before the
last segment has its turn.  So nothing need be said of the path that the walk begins with, except
where the base ends in a drive: there a segment may be written onto it.
-/
import Mathlib.Data.List.TakeDrop
import Mathlib.Data.List.TakeWhile
import SoapBindings.Proofs.Naming.Words
import SoapBindings.Url.FilePath
import SoapBindings.Url.Parse

namespace SoapBindings.Url

/-! ## Plain text -/

/-- The character stands for itself in the path of every URL, or separates its segments. -/
def isPlain (c : Char) : Bool := c == '/' || !(inFileNameSet c || c == ':' || c == '|')

/-- A relative reference that needs no encoding, and neither is empty nor names a host. -/
structure IsPlainReference (location : String) : Prop where
  ne_empty : location.toList ≠ []
  no_host : ¬ ['/', '/'] <+: location.toList
  plain : ∀ c ∈ location.toList, isPlain c = true

instance (location : String) : Decidable (IsPlainReference location) :=
  decidable_of_iff
    (location.toList ≠ [] ∧ ¬ ['/', '/'] <+: location.toList ∧ location.toList.all isPlain = true)
    ⟨fun ⟨hne, hhost, hplain⟩ => ⟨hne, hhost, List.all_eq_true.mp hplain⟩,
      fun ⟨hne, hhost, hplain⟩ => ⟨hne, hhost, List.all_eq_true.mpr hplain⟩⟩

/-- The text behind the last slash. -/
def lastSegment (cs : List Char) : List Char := (cs.reverse.takeWhile (· != '/')).reverse

/-- What a path ends in that is walked along to a last segment. -/
def endingAt (segment : List Char) : String :=
  if isDoubleDot segment || isSingleDot segment then "" else String.ofList segment

section Plain

variable {c : Char} {cs : List Char}

theorem isPlain_ne {d : Char} (h : isPlain c = true) (hd : isPlain d = false) : c ≠ d := by
  rintro rfl
  exact Bool.false_ne_true (hd.symm.trans h)

theorem isPlain_path (h : isPlain c = true) : inPathSet c = false := by
  rcases Bool.or_eq_true_iff.mp h with hslash | hname
  · rw [beq_iff_eq.mp hslash]
    decide
  · have hset : inFileNameSet c = false := by
      simp only [Bool.not_eq_true', Bool.or_eq_false_iff] at hname
      exact hname.1.1
    exact (Bool.or_eq_false_iff.mp hset).1

theorem isPlain_visible (h : isPlain c = true) : 0x20 < c.toNat ∧ c.toNat < 0x7F := by
  have hset := isPlain_path h
  have hspace : c.toNat ≠ 0x20 := fun heq =>
    isPlain_ne h (d := ' ') (by decide) (Char.toNat_inj.mp heq)
  simp only [inPathSet, inFragmentSet, inControlSet, Bool.or_eq_false_iff,
    decide_eq_false_iff_not] at hset
  omega

/-- Only a letter comes to be a small letter. -/
theorem toLower_plain (h : isPlain c = true) {d : Char} (hd : d ∈ ['.', '%'])
    (hlower : c.toLower = d) : c = d := by
  have hascii : ∀ n < 128, (Char.ofNat n).toLower = d → Char.ofNat n = d := by
    simp only [List.mem_cons, List.not_mem_nil, or_false] at hd
    obtain rfl | rfl := hd
    · decide
    · decide
  have hvisible := isPlain_visible h
  exact Naming.ascii_forall (P := fun c => c.toLower = d → c = d) hascii (by omega) hlower

theorem isPlain_not_break (h : isPlain c = true) : isBreak c = false := by
  have hlow : ("\t\n\r".toList.all fun d => d.toNat ≤ 0x20) = true := by decide
  have hvisible := isPlain_visible h
  refine Bool.eq_false_iff.mpr fun hbreak => ?_
  have hle := List.all_eq_true.mp hlow c (List.contains_iff_mem.mp hbreak)
  simp only [decide_eq_true_eq] at hle
  omega

theorem isSlash_plain (h : isPlain c = true) (special : Bool) :
    isSlash special c = (c == '/') := by
  have hback : (c == '\\') = false := beq_eq_false_iff_ne.mpr (isPlain_ne h (by decide))
  rw [isSlash, hback, Bool.and_false, Bool.or_false]

theorem joined_plain (h : ∀ c ∈ cs, isPlain c = true) : joined cs = cs :=
  List.filter_eq_self.mpr fun c hc => by rw [isPlain_not_break (h c hc)]; rfl

theorem segmentText_plain (h : ∀ c ∈ cs, isPlain c = true) : segmentText cs = String.ofList cs := by
  have hencode : encode inPathSet cs = cs := by
    induction cs with
    | nil => rfl
    | cons c cs ih =>
        rw [encode, List.flatMap_cons, isPlain_path (h c List.mem_cons_self)]
        exact congrArg (c :: ·) (ih fun d hd => h d (List.mem_cons_of_mem c hd))
  rw [segmentText, hencode]

theorem splitScheme?_plain (h : ∀ c ∈ cs, isPlain c = true) : splitScheme? cs = none := by
  have hcolon : ∀ rest, cs.dropWhile inScheme ≠ ':' :: rest := by
    intro rest heq
    have hmem : ':' ∈ cs := (List.dropWhile_suffix inScheme).subset (heq ▸ List.mem_cons_self)
    exact Bool.false_ne_true (h _ hmem)
  unfold splitScheme?
  dsimp only
  split
  · next heq => exact absurd heq (hcolon _)
  · rfl

theorem pastBreaks_plain (h : ∀ c ∈ cs, isPlain c = true) : pastBreaks cs = cs := by
  cases cs with
  | nil => rfl
  | cons c cs =>
      refine List.dropWhile_cons_of_neg ?_
      rw [isPlain_not_break (h c List.mem_cons_self)]
      exact Bool.false_ne_true

theorem splitTail_plain (h : ∀ c ∈ cs, isPlain c = true) : splitTail cs = (cs, none, none) := by
  have hspan : ∀ d, isPlain d = false → cs.span (· != d) = (cs, []) := by
    intro d hd
    have hall : ∀ c ∈ cs, (c != d) = true := fun c hc => bne_iff_ne.mpr (isPlain_ne (h c hc) hd)
    rw [List.span_eq_takeWhile_dropWhile, List.takeWhile_eq_self_iff.mpr hall,
      List.dropWhile_eq_nil_iff.mpr hall]
  unfold splitTail
  rw [hspan '#' (by decide)]
  simp only [hspan '?' (by decide)]

theorem trimmed_plain {s : String} (h : ∀ c ∈ s.toList, isPlain c = true) :
    trimmed s = s.toList := by
  have hdrop : ∀ cs : List Char, (∀ c ∈ cs, isPlain c = true) →
      cs.dropWhile (fun c => decide (c.toNat ≤ 0x20)) = cs := by
    intro cs hcs
    cases cs with
    | nil => rfl
    | cons c cs =>
        refine List.dropWhile_cons_of_neg ?_
        simpa using (isPlain_visible (hcs c List.mem_cons_self)).1
  rw [trimmed, Text.stripWhile, Text.dropEndWhile, hdrop _ h,
    hdrop _ fun c hc => h c (List.mem_reverse.mp hc), List.reverse_reverse]

end Plain

/-! ## Last segments -/

section LastSegment

variable {front name cs : List Char}

theorem takeWhile_slash (h : '/' ∉ name) (rest : List Char) :
    (name ++ rest).takeWhile (· != '/') = name ++ rest.takeWhile (· != '/') :=
  List.takeWhile_append_of_pos fun _ hc => bne_iff_ne.mpr fun heq => h (heq ▸ hc)

theorem lastSegment_append (h : '/' ∉ name) : lastSegment (front ++ '/' :: name) = name := by
  have hname : '/' ∉ name.reverse := mt List.mem_reverse.mp h
  rw [lastSegment, List.reverse_append, List.reverse_cons, List.append_assoc,
    takeWhile_slash hname]
  simp

theorem lastSegment_of_notMem (h : '/' ∉ name) : lastSegment name = name := by
  have hname : '/' ∉ name.reverse := mt List.mem_reverse.mp h
  have htake := takeWhile_slash hname []
  rw [List.append_nil] at htake
  rw [lastSegment, htake]
  simp

/-- A text is its last segment, perhaps with a slash in front and more in front of that. -/
theorem lastSegment_cases (cs : List Char) :
    '/' ∉ lastSegment cs ∧
      (cs = lastSegment cs ∨ ∃ front, cs = front ++ '/' :: lastSegment cs) := by
  by_cases h : '/' ∈ cs
  · obtain ⟨name, front, hcs, hname⟩ := List.eq_append_cons_of_mem (List.mem_reverse.mpr h)
    have hcs' : cs = front.reverse ++ '/' :: name.reverse := by
      rw [← List.reverse_reverse cs, hcs]
      simp
    have hname' : '/' ∉ name.reverse := mt List.mem_reverse.mp hname
    rw [hcs', lastSegment_append hname']
    exact ⟨hname', .inr ⟨_, rfl⟩⟩
  · rw [lastSegment_of_notMem h]
    exact ⟨h, .inl rfl⟩

theorem mem_lastSegment {c : Char} (h : c ∈ lastSegment cs) : c ∈ cs :=
  List.mem_reverse.mp ((List.takeWhile_sublist _).subset (List.mem_reverse.mp h))

/-- The last of the segments that slashes separate. -/
theorem splitOn_slash (cs : List Char) : ∃ front, cs.splitOn '/' = front ++ [lastSegment cs] := by
  obtain ⟨hname, hcs | ⟨front, hcs⟩⟩ := lastSegment_cases cs
  · have hsplit := List.splitOn_eq_singleton hname
    rw [← hcs] at hsplit
    exact ⟨[], hcs ▸ hsplit⟩
  · have hsplit := List.splitOn_append_cons_self (a := '/') front (lastSegment cs)
    rw [← hcs, List.splitOn_eq_singleton hname] at hsplit
    exact ⟨_, hsplit⟩

end LastSegment

/-! ## Walking along a path -/

section Walking

variable {file special : Bool} {path : List String} {segment last cs : List Char}

/-- A plain text without slashes names no drive, nor is one broken off it. -/
theorem no_drive (h : ∀ c ∈ segment, isPlain c = true) :
    isDrive segment = false ∧ splitBrokenDrive? segment = none := by
  constructor
  · unfold isDrive
    split
    · next letter mark =>
        have hmark := h mark (List.mem_cons_of_mem _ List.mem_cons_self)
        rw [beq_eq_false_iff_ne.mpr (isPlain_ne hmark (d := ':') (by decide)),
          beq_eq_false_iff_ne.mpr (isPlain_ne hmark (d := '|') (by decide))]
        exact Bool.and_false _
    · rfl
  · unfold splitBrokenDrive?
    split
    · next heq _ =>
        rw [joined_plain h] at heq
        have hcolon : ':' ∈ segment := heq ▸ List.mem_cons_of_mem _ List.mem_cons_self
        exact absurd (h _ hcolon) (by decide)
    · rfl

/-- Wherever a walk has come to, it ends with its last segment. -/
theorem walk_last (h : ∀ c ∈ last, isPlain c = true) (segments : List (List Char)) :
    (walk file path (segments ++ [last])).1.getLast? = some (endingAt last) := by
  induction segments generalizing path with
  | nil =>
      obtain ⟨hdrive, hbroken⟩ := no_drive h
      rw [List.nil_append, walk, joined_plain h, endingAt]
      simp only [hdrive, hbroken, segmentText_plain h, walk]
      cases isDoubleDot last <;> cases isSingleDot last <;> simp
  | cons segment segments ih =>
      rw [List.cons_append, walk]
      split
      · exact ih
      · split
        · exact ih
        · split
          · exact ih
          · split
            · exact ih
            · exact ih

theorem startsWithDrive_plain (h : ∀ c ∈ cs, isPlain c = true) : startsWithDrive cs = false := by
  unfold startsWithDrive
  split
  · next letter mark rest =>
      have hpair : ∀ c ∈ [letter, mark], isPlain c = true := fun c hc =>
        h c (List.mem_append_left rest hc)
      rw [(no_drive hpair).1]
      rfl
  · rfl

/-- Plain dots are spelled as such. -/
theorem dots_plain (h : ∀ c ∈ segment, isPlain c = true)
    (hdots : (isDoubleDot segment || isSingleDot segment) = true) : ∀ c ∈ segment, c = '.' := by
  have hspelled : ∃ dots ∈ [".", "%2e", "..", ".%2e", "%2e.", "%2e%2e"],
      segment.map Char.toLower = dots.toList := by
    refine ⟨String.ofList (segment.map Char.toLower), ?_, String.toList_ofList.symm⟩
    rcases Bool.or_eq_true_iff.mp hdots with hdots | hdots
    · exact List.mem_cons_of_mem _ (List.mem_cons_of_mem _ (List.contains_iff_mem.mp hdots))
    · exact List.mem_append_left _ (List.contains_iff_mem.mp hdots)
  obtain ⟨dots, hmem, hdots⟩ := hspelled
  have hall : ∀ dots ∈ [".", "%2e", "..", ".%2e", "%2e.", "%2e%2e"],
      '%' ∈ dots.toList ∨ dots.toList.all (· == '.') = true := by decide
  rcases hall dots hmem with hpercent | honly
  · rw [← hdots] at hpercent
    obtain ⟨c, hc, heq⟩ := List.mem_map.mp hpercent
    exact absurd (toLower_plain (h c hc) (by decide) heq) (isPlain_ne (h c hc) (by decide))
  · intro c hc
    rw [← hdots] at honly
    have hdot := List.all_eq_true.mp honly _ (List.mem_map_of_mem hc)
    exact toLower_plain (h c hc) (by decide) (beq_iff_eq.mp hdot)

theorem splitSegments_plain (h : ∀ c ∈ cs, isPlain c = true) :
    ∃ segments, splitSegments special cs = segments ++ [lastSegment cs] := by
  have hmap : cs.map (fun c => if isSlash special c then '/' else c) = cs := by
    refine (List.map_congr_left fun c hc => ?_).trans (List.map_id cs)
    rw [isSlash_plain (h c hc)]
    split
    · next heq => exact (beq_iff_eq.mp heq).symm
    · rfl
  rw [splitSegments, hmap]
  exact splitOn_slash cs

theorem walk_plain (h : ∀ c ∈ cs, isPlain c = true) :
    (walk file path (splitSegments special cs)).1.getLast? = some (endingAt (lastSegment cs)) := by
  obtain ⟨segments, hsegments⟩ :
      ∃ segments, splitSegments special cs = segments ++ [lastSegment cs] :=
    splitSegments_plain h
  rw [hsegments]
  exact walk_last (fun c hc => h c (mem_lastSegment hc)) segments

/-- A slash in front of a text is not in its last segment. -/
theorem lastSegment_root (cs : List Char) : lastSegment ('/' :: cs) = lastSegment cs := by
  obtain ⟨hname, hcs | ⟨front, hcs⟩⟩ := lastSegment_cases cs
  · have hroot : lastSegment ([] ++ '/' :: lastSegment cs) = lastSegment cs :=
      lastSegment_append hname
    rw [List.nil_append, ← hcs] at hroot
    exact hroot.trans hcs
  · have hroot : lastSegment (('/' :: front) ++ '/' :: lastSegment cs) = lastSegment cs :=
      lastSegment_append hname
    rwa [List.cons_append, ← hcs] at hroot

theorem dropLeadingEmpty_last {name : String} (h : path.getLast? = some name) :
    (dropLeadingEmpty path).getLast? = some name := by
  obtain ⟨front, rfl⟩ := List.getLast?_eq_some_iff.mp h
  unfold dropLeadingEmpty
  split
  · next hnil =>
      have hempty := List.dropWhile_eq_nil_iff.mp hnil name (by simp)
      rw [String.isEmpty_iff.mp hempty]
      rfl
  · next kept hkept =>
      obtain ⟨front', hsuffix⟩ := List.dropWhile_suffix (·.isEmpty) (l := front ++ [name])
      rw [← hsuffix, List.getLast?_append, Option.or_of_isSome (by simpa using hkept)] at h
      exact h

/-- A path that does not end in a drive gives way to a last segment. -/
theorem walkBeside_plain (h : ∀ c ∈ cs, isPlain c = true)
    (hpath : ∀ name, path.getLast? = some name → isDriveText name = false) :
    (walkBeside path (splitSegments true cs)).getLast? = some (endingAt (lastSegment cs)) := by
  unfold walkBeside
  split
  · next name segment rest hname hsegments =>
      rw [hpath name hname, Bool.not_false, if_pos rfl]
      exact walk_plain h
  · exact walk_plain h

end Walking

/-! ## References -/

/-- The path of a URL ends where a walk to a last segment does. -/
def EndsAt (url : Url) (segment : List Char) : Prop :=
  ∃ names, url.path = .segments names ∧ names.getLast? = some (endingAt segment)

section References

variable {base url : Url} {cs : List Char}

theorem fileUrl_endsAt {host : String} {path : List String} {query fragment : Option String}
    {segment : List Char} (h : path.getLast? = some (endingAt segment)) :
    (fileUrl host path query fragment).EndsAt segment :=
  ⟨_, rfl, dropLeadingEmpty_last h⟩

theorem readFile_plain (hplain : ∀ c ∈ cs, isPlain c = true) (hne : cs ≠ [])
    (hhost : ¬ ['/', '/'] <+: cs)
    (hbase : ∀ name, (segmentsOf base).getLast? = some name → isDriveText name = false)
    (h : readFile (some base) cs none none = .ok url) : url.EndsAt (lastSegment cs) := by
  unfold readFile at h
  rw [pastBreaks_plain hplain] at h
  cases cs with
  | nil => exact absurd rfl hne
  | cons first rest =>
      have hrest : ∀ c ∈ rest, isPlain c = true := fun c hc => hplain c (List.mem_cons_of_mem _ hc)
      dsimp only at h
      rw [isSlash_plain (hplain first List.mem_cons_self), pastBreaks_plain hrest] at h
      split at h
      · next hfirst =>
          obtain rfl := beq_iff_eq.mp hfirst
          rw [lastSegment_root]
          cases rest with
          | nil =>
              cases h
              exact fileUrl_endsAt (walk_plain hrest)
          | cons second place =>
              have hsecond : second ≠ '/' := fun heq => hhost ⟨place, heq ▸ rfl⟩
              dsimp only at h
              rw [isSlash_plain (hrest second List.mem_cons_self), beq_eq_false_iff_ne.mpr hsecond,
                if_neg Bool.false_ne_true] at h
              cases h
              exact fileUrl_endsAt (walk_plain hrest)
      · rw [joined_plain hplain, startsWithDrive_plain hplain, if_neg Bool.false_ne_true] at h
        cases h
        exact fileUrl_endsAt (walkBeside_plain hplain hbase)

theorem readRelative_plain (hplain : ∀ c ∈ cs, isPlain c = true) (hne : cs ≠ [])
    (hhost : ¬ ['/', '/'] <+: cs)
    (h : readRelative base cs none none = .ok url) : url.EndsAt (lastSegment cs) := by
  cases cs with
  | nil => exact absurd rfl hne
  | cons first rest =>
      have hrest : ∀ c ∈ rest, isPlain c = true := fun c hc => hplain c (List.mem_cons_of_mem _ hc)
      have hslash : ∀ c ∈ first :: rest, isSlash true c = (c == '/') := fun c hc =>
        isSlash_plain (hplain c hc) true
      unfold readRelative at h
      dsimp only at h
      rw [hslash first List.mem_cons_self] at h
      split at h
      · next hfirst =>
          obtain rfl := beq_iff_eq.mp hfirst
          rw [lastSegment_root]
          split at h
          · next second place =>
              have hsecond : second ≠ '/' := fun heq => hhost ⟨place, heq ▸ rfl⟩
              rw [hslash second (by simp), beq_eq_false_iff_ne.mpr hsecond,
                if_neg Bool.false_ne_true] at h
              cases h
              exact ⟨_, rfl, walk_plain hrest⟩
          · cases h
            exact ⟨_, rfl, walk_plain hrest⟩
      · cases h
        exact ⟨_, rfl, walk_plain hplain⟩

/-- A plain reference has no scheme. -/
theorem read_plain_alone {location : String} (h : ∀ c ∈ location.toList, isPlain c = true) :
    read none location = .error .relativeWithoutBase := by
  unfold read
  simp only [trimmed_plain h, splitScheme?_plain h]

/-- **A plain reference keeps its last segment** when it is read against a base that does not end in
a drive. -/
theorem read_plain {location : String} (hlocation : IsPlainReference location)
    (hbase : ∀ name, (segmentsOf base).getLast? = some name → isDriveText name = false)
    (h : read (some base) location = .ok url) : url.EndsAt (lastSegment location.toList) := by
  obtain ⟨hne, hhost, hplain⟩ := hlocation
  unfold read at h
  simp only [trimmed_plain hplain, splitScheme?_plain hplain, splitTail_plain hplain,
    Option.map_none] at h
  split at h
  · -- only a fragment would be read against a base without segments
    split at h
    · next hhash =>
        have hmem : '#' ∈ location.toList := List.mem_of_head? (beq_iff_eq.mp hhash)
        exact absurd (hplain _ hmem) (by decide)
    · cases h
  · split at h
    · exact readFile_plain hplain hne hhost hbase h
    · rw [joined_plain hplain] at h
      exact readRelative_plain hplain hne hhost h

end References

end SoapBindings.Url
