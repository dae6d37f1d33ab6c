/-
# `SoapBindings.Proofs.Soap.Marked` — envelopes behind a byte order mark

The scanner drops the mark and counts from behind it, and the content is cut out of the whole text.
So the mark is harmless as long as nothing is cut out, and otherwise the cut falls three octets
early or into a character.
-/
import SoapBindings.Proofs.Markup.Sources
import SoapBindings.Proofs.Markup.Tags
import SoapBindings.Proofs.Soap.Content
import SoapBindings.Soap.Client

namespace SoapBindings

/-! ## Cuts -/

namespace Text

theorem cutAt?_eq_some {cs xs ys : List Char} {n : Nat} (h : cutAt? cs n = some (xs, ys)) :
    cs = xs ++ ys ∧ octets xs = n := by
  induction cs generalizing n xs with
  | nil =>
      simp only [cutAt?] at h
      split at h
      case isFalse => cases h
      case isTrue hn =>
        cases h
        exact ⟨rfl, hn.symm⟩
  | cons c cs ih =>
      simp only [cutAt?] at h
      split at h
      case isTrue hn =>
        cases h
        exact ⟨rfl, hn.symm⟩
      case isFalse =>
        split at h
        case isFalse => cases h
        case isTrue hsize =>
          obtain ⟨⟨before, after⟩, hcut, hpair⟩ := Option.map_eq_some_iff.mp h
          cases hpair
          obtain ⟨rfl, hoctets⟩ := ih hcut
          refine ⟨rfl, ?_⟩
          rw [octets, hoctets]
          omega

/-- What is cut out of a text stands in it, at the places of the cut. -/
theorem exists_of_slice? {cs zs : List Char} {start size : Nat}
    (h : slice? cs start (start + size) = some zs) :
    ∃ xs ys, cs = xs ++ (zs ++ ys) ∧ octets xs = start ∧ octets zs = size := by
  simp only [slice?, bind, Option.bind_eq_some_iff, Nat.add_sub_cancel_left, pure] at h
  obtain ⟨⟨xs, rest⟩, hfirst, ⟨piece, ys⟩, hsecond, hpiece⟩ := h
  cases hpiece
  obtain ⟨rfl, hstart⟩ := cutAt?_eq_some hfirst
  obtain ⟨rfl, hsize⟩ := cutAt?_eq_some hsecond
  exact ⟨xs, ys, rfl, hstart, hsize⟩

/-- The first character of a text moves what is behind it. -/
theorem slice?_cons (c : Char) (cs : List Char) (start size : Nat) :
    slice? (c :: cs) (c.utf8Size + start) (c.utf8Size + start + size) =
      slice? cs start (start + size) := by
  have hpos : c.utf8Size + start ≠ 0 := Nat.ne_of_gt (Nat.add_pos_left c.utf8Size_pos start)
  simp only [slice?, cutAt?, hpos, if_false, Nat.le_add_right, if_true, Nat.add_sub_cancel_left]
  cases cutAt? cs start <;> rfl

theorem eq_nil_of_octets {cs : List Char} (h : octets cs = 0) : cs = [] := by
  cases cs with
  | nil => rfl
  | cons c cs =>
      have hpos := c.utf8Size_pos
      simp only [octets] at h
      omega

/-- Two characters in a text of two octets are all of it. -/
theorem eq_pair_of_octets {cs : List Char} {a b : Char} (hsize : octets cs ≤ 2) (ha : a ∈ cs)
    (hb : b ∈ cs) (hne : a ≠ b) : cs = [a, b] ∨ cs = [b, a] := by
  rcases cs with _ | ⟨x, _ | ⟨y, _ | ⟨z, cs⟩⟩⟩
  · cases ha
  · rw [List.mem_singleton] at ha hb
    exact absurd (ha.trans hb.symm) hne
  · have hpair : a = x ∧ b = y ∨ a = y ∧ b = x := by grind
    rcases hpair with ⟨rfl, rfl⟩ | ⟨rfl, rfl⟩
    · exact .inl rfl
    · exact .inr rfl
  · have hx := x.utf8Size_pos
    have hy := y.utf8Size_pos
    have hz := z.utf8Size_pos
    simp only [octets] at hsize
    omega

/-- Of two beginnings of a text, the one with fewer octets begins the other. -/
theorem prefix_of_octets_le {xs xs' ys ys' : List Char} (h : xs ++ ys = xs' ++ ys')
    (hle : octets xs ≤ octets xs') : ∃ zs, xs' = xs ++ zs ∧ ys = zs ++ ys' := by
  rcases List.append_eq_append_iff.mp h with ⟨zs, rfl, rfl⟩ | ⟨zs, rfl, rfl⟩
  · exact ⟨zs, rfl, rfl⟩
  · rw [octets_append] at hle
    obtain rfl := eq_nil_of_octets (show octets zs = 0 by omega)
    exact ⟨[], by simp, rfl⟩

/-- A character that stands behind a place and not in the end of the text stands before that end. -/
theorem exists_of_append_cons {xs ys zs rest : List Char} {c : Char}
    (h : xs ++ ys = zs ++ c :: rest) (hc : c ∉ ys) : ∃ v, xs = zs ++ c :: v ∧ rest = v ++ ys := by
  rcases List.append_eq_append_iff.mp h with ⟨z, -, rfl⟩ | ⟨z, rfl, hrest⟩
  · exact absurd (List.mem_append_right z List.mem_cons_self) hc
  · cases z with
    | nil =>
        rw [List.nil_append] at hrest
        exact absurd (hrest ▸ List.mem_cons_self) hc
    | cons d v =>
        obtain ⟨rfl, rfl⟩ := List.cons.inj hrest
        exact ⟨v, rfl, rfl⟩

/-- A text is what is left of it between blanks. -/
theorem exists_strip (p : Char → Bool) (cs : List Char) :
    ∃ front back, cs = front ++ (stripWhile p cs ++ back) := by
  obtain ⟨back, hback, -⟩ := exists_trail p (cs.dropWhile p)
  exact ⟨cs.takeWhile p, back, by rw [stripWhile, ← hback, List.takeWhile_append_dropWhile]⟩

/-- What goes on as it began has no two characters side by side that its period has not. -/
theorem pair_of_prefix {xs w u r : List Char} {c a b : Char} (h : xs <+: c :: w ++ xs)
    (hxs : xs = u ++ a :: b :: r) : [a, b] <:+: c :: w ++ [c] := by
  induction hlength : u.length using Nat.strong_induction_on generalizing u r with
  | _ n ih =>
      have hbegin : u ++ [a] <+: c :: w ++ xs := by
        refine List.IsPrefix.trans ⟨b :: r, ?_⟩ h
        rw [hxs, List.append_assoc, List.singleton_append]
      by_cases hlong : (c :: w).length ≤ u.length
      · -- The same two characters stand one period before.
        obtain ⟨u, rfl⟩ := List.prefix_of_prefix_length_le (List.prefix_append (c :: w) xs)
          ((List.prefix_append u [a]).trans hbegin) hlong
        have hrest : u ++ a :: b :: r <+: xs := by
          rw [hxs, List.append_assoc] at h
          have hrest := (List.prefix_append_right_inj (c :: w)).mp h
          rwa [← List.append_assoc, ← hxs] at hrest
        obtain ⟨more, hmore⟩ := hrest
        refine ih u.length ?_ (u := u) (r := r ++ more) ?_ rfl
        · rw [← hlength, List.length_append, List.length_cons]
          omega
        · rw [← hmore]
          simp
      · obtain ⟨t, ht⟩ := List.prefix_of_prefix_length_le hbegin (List.prefix_append (c :: w) xs)
          (by simp only [List.length_append, List.length_cons, List.length_nil] at hlong ⊢; omega)
        have hnext : b :: r <+: t ++ xs := by
          have hall : xs = u ++ [a] ++ (b :: r) := by rw [hxs, List.append_cons]
          rw [← ht, List.append_assoc] at h
          exact (List.prefix_append_right_inj (u ++ [a])).mp (hall ▸ h)
        cases t with
        | nil =>
            -- The first one ends the period, so the second one begins it.
            rw [List.append_nil] at ht
            rw [List.nil_append, hxs, List.append_cons, ht, List.cons_append] at hnext
            obtain rfl : b = c := (List.cons_prefix_cons.mp hnext).1
            exact ⟨u, [], by rw [← ht]; simp⟩
        | cons b' t =>
            obtain rfl : b = b' := (List.cons_prefix_cons.mp hnext).1
            exact ⟨u, t ++ [c], by rw [← ht]; simp⟩

end Text

namespace Soap

open Markup Message

/-! ## The places that the search comes to -/

/-- An element reaches up to the end of a lexeme. -/
theorem exists_of_reach? {name : List Char} {depth n : Nat} {ls : List (Lexeme Char)}
    (h : reach? name depth ls = some n) :
    ∃ front back, ls = front ++ back ∧ n = Text.octets (sources front) := by
  induction ls generalizing depth n with
  | nil => cases h
  | cons l ls ih =>
      have hfurther {depth : Nat}
          (h : (reach? name depth ls).map (Text.octets l.source + ·) = some n) :
          ∃ front back, l :: ls = front ++ back ∧ n = Text.octets (sources front) := by
        obtain ⟨m, hm, rfl⟩ := Option.map_eq_some_iff.mp h
        obtain ⟨front, back, rfl, rfl⟩ := ih hm
        exact ⟨l :: front, back, rfl, by simp⟩
      unfold reach? at h
      dsimp only at h
      split at h
      · exact hfurther h
      · split at h
        · split at h
          · cases h
            exact ⟨[l], ls, rfl, by simp⟩
          · exact hfurther h
        · exact hfurther h
      · exact hfurther h

theorem ended_le_snoc (done : List (Lexeme Char)) (l : Lexeme Char) :
    ended done ≤ ended (done ++ [l]) := by
  obtain ⟨kept, padding, rfl, hkept, -⟩ := exists_ended done
  rw [ended_snoc]
  split
  · exact le_rfl
  · rw [hkept, sources_append, Text.octets_append]
    omega

/-- The tag that opens a body takes more octets than a mark. -/
theorem ended_body (done : List (Lexeme Char)) {tag source : List Char}
    (hl : (⟨.start tag, source⟩ : Lexeme Char).IsFormed) (hname : elementName tag = "Body") :
    3 ≤ ended (done ++ [⟨.start tag, source⟩]) := by
  have hsource : source = '<' :: (tag ++ ['>']) := hl
  cases tag with
  | nil => exact absurd hname (by decide)
  | cons c tag =>
      have hpos := c.utf8Size_pos
      have hopen : Char.utf8Size '<' = 1 := by decide
      have hclose : Text.octets ['>'] = 1 := by decide
      simp only [ended_snoc, isPadding, Bool.false_eq_true, if_false, hsource, List.cons_append,
        Text.octets, Text.octets_append, hopen] at hclose ⊢
      omega

/-- The search comes to the ends of lexemes, behind the tag that opens the body. -/
theorem exists_of_locateFrom {fault : Option MarkupError} {depth : Nat} {inBody : Bool}
    {done ls : List (Lexeme Char)} {name : String} {start stop : Nat}
    (h : locateFrom fault depth inBody done ls = .ok (some (name, start, stop)))
    (hls : ∀ l ∈ ls, l.IsFormed) (hbody : inBody → 3 ≤ ended done) :
    3 ≤ start ∧ ∃ before piece rest, done ++ ls = before ++ (piece ++ rest) ∧
      start = Text.octets (sources before) ∧ stop = start + Text.octets (sources piece) := by
  induction ls generalizing depth inBody done with
  | nil =>
      cases fault <;> cases h
  | cons l ls ih =>
      obtain ⟨hl, hls⟩ := List.forall_mem_cons.mp hls
      have hended := ended_snoc done l
      rw [← octets_snoc] at hended
      have hfurther {depth : Nat} {inBody : Bool}
          (h : locateFrom fault depth inBody (done ++ [l]) ls = .ok (some (name, start, stop)))
          (hbody : inBody → 3 ≤ ended (done ++ [l])) :
          3 ≤ start ∧ ∃ before piece rest, done ++ l :: ls = before ++ (piece ++ rest) ∧
            start = Text.octets (sources before) ∧ stop = start + Text.octets (sources piece) := by
        obtain ⟨hstart, before, piece, rest, hrow, hplaces⟩ := ih h hls hbody
        refine ⟨hstart, before, piece, rest, ?_, hplaces⟩
        rw [← hrow, List.append_assoc, List.singleton_append]
      have hpassed (h : inBody) : 3 ≤ ended (done ++ [l]) := (hbody h).trans (ended_le_snoc done l)
      -- An element ends at the end of a lexeme behind the one that it begins with.
      have hfound {front back : List (Lexeme Char)} (hls : ls = front ++ back) :
          ∃ before piece rest, done ++ l :: ls = before ++ (piece ++ rest) ∧
            ended done = Text.octets (sources before) ∧
            Text.octets (sources (done ++ [l])) + Text.octets (sources front) =
              ended done + Text.octets (sources piece) := by
        obtain ⟨kept, padding, rfl, hkept, -⟩ := exists_ended done
        refine ⟨kept, padding ++ l :: front, back, by simp [hls], hkept, ?_⟩
        simp only [hkept, sources_append, sources_cons, sources_nil, Text.octets_append,
          List.append_nil]
        omega
      unfold locateFrom at h
      simp only [locate, ← octets_snoc, ← hended] at h
      split at h
      case h_1 tag htoken =>
        split at h
        · cases h
        split at h
        case isTrue hdepth =>
          obtain ⟨-, hin⟩ := Bool.and_eq_true_iff.mp hdepth
          split at h
          · rename_i length hreach
            obtain ⟨front, back, hls, rfl⟩ := exists_of_reach? hreach
            cases h
            exact ⟨hbody hin, hfound hls⟩
          · cases h
        case isFalse =>
          refine hfurther h fun hin => ?_
          rcases (Bool.or_eq_true _ _).mp hin with hin | hopens
          · exact hpassed hin
          · obtain ⟨token, source⟩ := l
            obtain rfl : token = .start tag := htoken
            exact ended_body done hl (beq_iff_eq.mp (Bool.and_eq_true_iff.mp hopens).2)
      · split at h
        · cases h
        split at h
        case isTrue hdepth =>
          obtain ⟨-, hin⟩ := Bool.and_eq_true_iff.mp hdepth
          cases h
          exact ⟨hbody hin, @hfound [] ls rfl⟩
        split at h
        · cases h
        · exact hfurther h hpassed
      · split at h
        · cases h
        · exact hfurther h hpassed
      · exact hfurther h hpassed

theorem exists_of_locate {cs : List Char} {name : String} {start stop : Nat}
    (h : locate (scan cs).fault 0 false 0 0 (scan cs).lexemes = .ok (some (name, start, stop))) :
    3 ≤ start ∧ ∃ before piece rest, (scan cs).lexemes = before ++ (piece ++ rest) ∧
      start = Text.octets (sources before) ∧ stop = start + Text.octets (sources piece) := by
  have h : locateFrom (scan cs).fault 0 false [] (scan cs).lexemes =
      .ok (some (name, start, stop)) := h
  exact exists_of_locateFrom h (fun _ hl => isFormed_of_scan hl) nofun

/-! ## The cut behind a mark -/

theorem dropMark_mark (cs : List Char) : dropMark ('\uFEFF' :: cs) = cs := by
  simp [dropMark, TextUnit.byteOrderMark]

/-- The scanner does not see a mark. -/
theorem scan_mark {cs : List Char} (hmark : cs.head? ≠ some '\uFEFF') :
    scan ('\uFEFF' :: cs) = scan cs := by
  simp only [scan, dropMark_mark, dropMark_of_head hmark]

/-- The content that a cut of so many octets from a place on comes to. -/
def cutOut (name : String) (cs : List Char) (start size : Nat) :
    Except SoapError (Option Content) :=
  match Text.slice? cs start (start + size) with
  | some xml => .ok (some ⟨name, Text.stripWhile Text.isBlank xml⟩)
  | none => .error .misplaced

/-- Where the search comes to something, the content is cut out. -/
theorem content_eq_cutOut {cs : List Char} {name : String} {start size : Nat}
    (h : locate (scan cs).fault 0 false 0 0 (scan cs).lexemes =
      .ok (some (name, start, start + size))) :
    content cs = cutOut name cs start size := by
  simp only [content, h, bind, Except.bind, cutOut]
  cases Text.slice? cs start (start + size) <;> rfl

/-- Behind a mark the cut is made three octets before the place where it is meant. -/
theorem content_mark_eq_cutOut {cs : List Char} (hmark : cs.head? ≠ some '\uFEFF') {name : String}
    {start size : Nat} (hstart : 3 ≤ start)
    (h : locate (scan cs).fault 0 false 0 0 (scan cs).lexemes =
      .ok (some (name, start, start + size))) :
    content ('\uFEFF' :: cs) = cutOut name cs (start - 3) size := by
  have hmarked : content ('\uFEFF' :: cs) = cutOut name ('\uFEFF' :: cs) start size :=
    content_eq_cutOut (by rw [scan_mark hmark]; exact h)
  have hcut := Text.slice?_cons '\uFEFF' cs (start - 3) size
  rw [show Char.utf8Size '\uFEFF' + (start - 3) = start by
    rw [show Char.utf8Size '\uFEFF' = 3 by decide]
    omega] at hcut
  rw [hmarked, cutOut, cutOut, hcut]

/-- The content is cut out between two lexemes, at places that a mark in front does not move. -/
theorem content_cases {cs : List Char} (hmark : cs.head? ≠ some '\uFEFF') :
    (content ('\uFEFF' :: cs) = content cs ∧ ∀ c, content cs ≠ .ok (some c)) ∨
      ∃ c start size, content cs = .ok (some c) ∧ 3 ≤ start ∧
        cutOut c.name cs start size = .ok (some c) ∧
        content ('\uFEFF' :: cs) = cutOut c.name cs (start - 3) size := by
  cases hlocate : locate (scan cs).fault 0 false 0 0 (scan cs).lexemes with
  | error e =>
      refine .inl ⟨?_, fun c hc => ?_⟩
      · simp only [content, scan_mark hmark, hlocate]
        rfl
      · simp only [content, hlocate] at hc
        cases hc
  | ok found =>
      rcases found with _ | ⟨name, start, stop⟩
      · refine .inl ⟨?_, fun c hc => ?_⟩
        · simp only [content, scan_mark hmark, hlocate]
          rfl
        · simp only [content, hlocate] at hc
          cases hc
      · obtain ⟨hstart, before, piece, behind, hrow, rfl, rfl⟩ := exists_of_locate hlocate
        obtain ⟨rest, -, hcs, -, -⟩ := scan_row cs
        rw [dropMark_of_head hmark] at hcs
        have htext : cs = sources before ++ (sources piece ++ (sources behind ++ rest)) := by
          rw [hrow] at hcs
          simpa using hcs
        have hslice := Text.slice?_append (sources before) (sources piece) (sources behind ++ rest)
        rw [← htext] at hslice
        have hcut : cutOut name cs (Text.octets (sources before)) (Text.octets (sources piece)) =
            .ok (some ⟨name, Text.stripWhile Text.isBlank (sources piece)⟩) := by
          simp only [cutOut, hslice]
        exact .inr ⟨_, _, _, (content_eq_cutOut hlocate).trans hcut, hstart, hcut,
          content_mark_eq_cutOut hmark hstart hlocate⟩

/-! ## A cut that falls early -/

/-- A bracket that opens markup in a row is followed by one that closes it. -/
theorem close_of_open {ls : List (Lexeme Char)} (h : Spelled ls) {u v : List Char}
    (hls : sources ls = u ++ '<' :: v) : '>' ∈ v := by
  induction ls using List.reverseRecOn generalizing v with
  | nil => simp at hls
  | append_singleton ls l ih =>
      have hlast {w : List Char} (hsource : l.source = w ++ '<' :: v) : '>' ∈ v := by
        cases h.each l (by simp) with
        | stretch _ _ hplain =>
            have hbracket : is '<' '<' = false := hplain '<' (by simp [hsource])
            cases hbracket
        | markup _ hbrackets _ =>
            obtain ⟨inner, hinner⟩ := hbrackets
            have hclose : l.source.getLast? = some '>' := by
              rw [hinner]
              exact List.getLast?_concat ..
            rw [hsource, List.getLast?_append_of_ne_nil _ (List.cons_ne_nil _ _)] at hclose
            cases v with
            | nil => cases hclose
            | cons c v => exact List.mem_of_getLast? (by rwa [List.getLast?_cons_cons] at hclose)
      rw [sources_append, sources_cons, sources_nil, List.append_nil] at hls
      rcases List.append_eq_append_iff.mp hls with ⟨w, -, hsource⟩ | ⟨w, hrow, hbehind⟩
      · exact hlast hsource
      · cases w with
        | nil => exact hlast (w := []) hbehind.symm
        | cons c w =>
            obtain ⟨rfl, rfl⟩ := List.cons.inj hbehind
            exact List.mem_append_left _ (ih h.of_append.1 hrow)

/-- An element begins with a bracket and no end tag, and somewhere in it a tag is ended: by a slash
behind a bracket or in front of one. -/
theorem ends_of_element {cs : List Char} {child : Passage Char} (h : child.isElement)
    (hscan : ∀ l ∈ child.lexemes, l ∈ (scan cs).lexemes) :
    (∃ rest, child.text = '<' :: rest ∧ rest.head? ≠ some '/') ∧
      (['<', '/'] <:+: child.text ∨ ['/', '>'] <:+: child.text) := by
  have hhead {tag : List Char} (hcontent : isTagContent tag) (rest : List Char) :
      (tag ++ '>' :: rest).head? ≠ some '/' := by
    cases tag with
    | nil => simp
    | cons c tag =>
        have hc := (Bool.and_eq_true_iff.mp hcontent).1
        rintro ⟨⟩
        cases hc
  cases child with
  | between _ _ => cases h
  | empty tag source =>
      have hl := hscan ⟨.empty tag, source⟩ (by simp [Passage.lexemes])
      have hsource : source = '<' :: (tag ++ ['/', '>']) := isFormed_of_scan hl
      obtain ⟨hcontent, hne⟩ := Bool.and_eq_true_iff.mp (isWritten_of_scan hl rfl)
      have htext : (Passage.empty tag source).text = source := by
        simp [Passage.text, Passage.lexemes]
      rw [htext, hsource]
      refine ⟨⟨_, rfl, ?_⟩, .inr ⟨'<' :: tag, [], by simp⟩⟩
      cases tag with
      | nil => cases hne
      | cons c tag => exact hhead hcontent []
  | element tag opening content closing =>
      have hl := hscan ⟨.start tag, opening⟩ (by simp [Passage.lexemes])
      have hopening : opening = '<' :: (tag ++ ['>']) := isFormed_of_scan hl
      have hcontent := (Bool.and_eq_true_iff.mp (isWritten_of_scan hl rfl)).1
      obtain ⟨inner, hclosing⟩ : ∃ inner, closing = ['<', '/'] ++ inner :=
        isFormed_of_scan (hscan ⟨.stop (tagName tag), closing⟩ (by simp [Passage.lexemes]))
      have htext : (Passage.element tag opening content closing).text =
          '<' :: (tag ++ '>' :: (sources (lexemesOf content) ++ (['<', '/'] ++ inner))) := by
        simp [Passage.text, Passage.lexemes, hopening, hclosing]
      rw [htext]
      refine ⟨⟨_, rfl, hhead hcontent _⟩, .inl ⟨'<' :: (tag ++ '>' :: sources (lexemesOf content)),
        inner, by simp⟩⟩

/-- The ends of tags in what goes on with a period of a few octets of markup and blanks: there are
none, unless the period begins like an end tag. -/
theorem no_end_in_period {text v blanks more : List Char} (hblanks : ∀ c ∈ blanks, Text.isBlank c)
    (hclose : '>' ∈ v) (hsize : Text.octets v ≤ 2)
    (hbegin : ∃ rest, text = '<' :: rest ∧ rest.head? ≠ some '/')
    (hagain : text ++ more = '<' :: (v ++ blanks) ++ text) :
    ¬(['<', '/'] <:+: text ∨ ['/', '>'] <:+: text) := by
  intro hend
  have hpair {a b : Char} (h : [a, b] <:+: text) : [a, b] <:+: '<' :: (v ++ (blanks ++ ['<'])) := by
    obtain ⟨u, r, htext⟩ := h
    have hagain : text <+: '<' :: (v ++ blanks) ++ text := ⟨more, hagain⟩
    have htext : text = u ++ a :: b :: r := by rw [← htext]; simp
    simpa using Text.pair_of_prefix hagain htext
  have hplain {c : Char} (hc : Text.isBlank c = false) (hother : c ≠ '<') :
      c ∉ blanks ++ ['<'] := by
    intro hmem
    rcases List.mem_append.mp hmem with hmem | hmem
    · simp [hblanks c hmem] at hc
    · exact hother (List.mem_singleton.mp hmem)
  have hslash : '/' ∉ blanks ++ ['<'] := hplain (by decide) (by decide)
  have hbracket : '>' ∉ blanks ++ ['<'] := hplain (by decide) (by decide)
  have hmem : '/' ∈ v := by
    have hall : '/' ∈ '<' :: (v ++ (blanks ++ ['<'])) := by
      rcases hend with h | h <;> exact (hpair h).subset (by simp)
    rcases List.mem_cons.mp hall with hall | hall
    · cases hall
    · exact (List.mem_append.mp hall).resolve_right hslash
  rcases Text.eq_pair_of_octets hsize hmem hclose (by decide) with rfl | rfl
  · -- The text begins like its period, which begins like an end tag.
    obtain ⟨rest, rfl, hrest⟩ := hbegin
    have hrest' : rest ++ more = '/' :: ('>' :: blanks ++ '<' :: rest) := (List.cons.inj hagain).2
    cases rest with
    | nil => rcases hend with h | h <;> exact absurd h.length_le (by decide)
    | cons c rest => exact hrest (congrArg some (List.cons.inj hrest').1)
  · generalize blanks ++ ['<'] = behind at hpair hslash hbracket
    rcases hend with h | h
    · have hfound : ['<', '/'] <:+: behind := by
        simpa [List.infix_cons_iff, List.cons_prefix_cons] using hpair h
      exact hslash (hfound.subset (by simp))
    · have hfound : ['>'] <+: behind ∨ ['/', '>'] <:+: behind := by
        simpa [List.infix_cons_iff, List.cons_prefix_cons] using hpair h
      rcases hfound with hfound | hfound <;> exact hbracket (hfound.subset (by simp))

/-- **What is cut out early is not the element**, even without the blanks around it.  For it would
go on as it began, with a period that begins in the markup before it, no longer than that, and there
is no end of a tag in such a period. -/
theorem stripWhile_early {before blanks text front cut back : List Char}
    (hopen : ∀ u v, before = u ++ '<' :: v → '>' ∈ v) (hblanks : ∀ c ∈ blanks, Text.isBlank c)
    (hbegin : ∃ rest, text = '<' :: rest ∧ rest.head? ≠ some '/')
    (hend : ['<', '/'] <:+: text ∨ ['/', '>'] <:+: text)
    (hcut : before ++ (blanks ++ text) = front ++ (cut ++ back))
    (hfront : Text.octets front + 3 = Text.octets before)
    (hsize : Text.octets cut = Text.octets (blanks ++ text)) :
    Text.stripWhile Text.isBlank cut ≠ text := by
  intro hstrip
  obtain ⟨rest, htext, hrest⟩ := hbegin
  obtain ⟨lead, trail, hlead⟩ := Text.exists_strip Text.isBlank cut
  rw [hstrip] at hlead
  -- The three octets between the place of the cut and the place that is meant.
  obtain ⟨early, rfl, hbehind⟩ : ∃ early, before = front ++ early ∧
      cut ++ back = early ++ (blanks ++ text) :=
    Text.prefix_of_octets_le hcut.symm (by omega)
  have hthree : Text.octets early = 3 := by
    rw [Text.octets_append] at hfront
    omega
  rw [hlead, Text.octets_append, Text.octets_append, Text.octets_append] at hsize
  obtain ⟨period, hperiod, hagain⟩ : ∃ period, early ++ blanks = lead ++ period ∧
      text ++ (trail ++ back) = period ++ text := by
    refine Text.prefix_of_octets_le ?_ ?_
    · rw [List.append_assoc, ← hbehind, hlead]
      simp
    · rw [Text.octets_append]
      omega
  -- It begins with the bracket that the element begins with, which is no blank.
  obtain ⟨w, rfl⟩ : ∃ w, period = '<' :: w := by
    cases period with
    | nil =>
        have hoctets := congrArg Text.octets hperiod
        rw [List.append_nil, Text.octets_append] at hoctets
        omega
    | cons c w =>
        rw [htext] at hagain
        exact ⟨w, by rw [(List.cons.inj hagain).1]⟩
  have hbracket : '<' ∉ blanks := by
    intro hmem
    have hblank := hblanks '<' hmem
    revert hblank
    decide
  obtain ⟨v, hearlyLead, rfl⟩ := Text.exists_of_append_cons hperiod hbracket
  have hclose : '>' ∈ v := hopen (front ++ lead) v (by rw [hearlyLead, List.append_assoc])
  have hshort : Text.octets v ≤ 2 := by
    rw [hearlyLead, Text.octets_append, ← List.singleton_append, Text.octets_append,
      show Text.octets ['<'] = 1 by decide] at hthree
    omega
  exact no_end_in_period hblanks hclose hshort ⟨rest, htext, hrest⟩ hagain hend

section Payload

variable {cs : List Char} {ps : List (Passage Char)} {root : Passage Char}
  (hmark : cs.head? ≠ some '\uFEFF') (hread : ReadAs cs ps) (hroot : elements ps = [root])
include hmark hread hroot

/-- A mark in front of an envelope changes what is cut out of it. -/
theorem content_mark_ne {child : Passage Char} (hchild : payload root = .ok (some child)) :
    content ('\uFEFF' :: cs) ≠ content cs := by
  have hscan : scan cs = ⟨lexemesOf ps, none⟩ := hread
  have hfinds := locate_payload hroot
  obtain ⟨rest, openTags, hcs, hspelled, -⟩ := scan_row cs
  rw [dropMark_of_head hmark, hscan] at hcs
  rw [hscan] at hspelled
  rw [hchild] at hfinds
  obtain ⟨helement, done, behind, hrow, hdone, -, hlocate⟩ := hfinds.exists_spelled hspelled
  obtain ⟨kept, padding, rfl, hended, hpadding⟩ := exists_ended done
  obtain ⟨hkept, hblank⟩ := hdone.of_append
  have hlexemes : ∀ l ∈ child.lexemes, l ∈ (scan cs).lexemes := by
    intro l hl
    rw [hscan, hrow]
    exact List.mem_append_right _ (List.mem_append_left _ hl)
  obtain ⟨hbegin, hend⟩ := ends_of_element helement hlexemes
  have htext : cs = sources kept ++ (sources padding ++ child.text) ++
      (sources behind ++ rest) := by
    rw [hcs, hrow]
    simp [Passage.text]
  have hfound : locate (scan cs).fault 0 false 0 0 (scan cs).lexemes = .ok (some (nameOf child,
      Text.octets (sources kept),
      Text.octets (sources kept) + Text.octets (sources padding ++ child.text))) := by
    rw [hscan, hlocate, hended, sources_append, Text.octets_append, Text.octets_append,
      Nat.add_assoc]
  have hstart : 3 ≤ Text.octets (sources kept) := (exists_of_locate hfound).1
  rw [content_mark_eq_cutOut hmark hstart hfound, content_eq_payload hmark hread hroot, hchild]
  intro hsame
  unfold cutOut at hsame
  split at hsame
  case h_2 => cases hsame
  case h_1 cut hslice =>
    have hstrip : Text.stripWhile Text.isBlank cut = child.text :=
      congrArg Content.xml (Option.some.inj (Except.ok.inj hsame))
    obtain ⟨front, back, hcut, hfront, hsize⟩ := Text.exists_of_slice? hslice
    obtain ⟨more, hmore, -⟩ : ∃ more, sources kept ++ (sources padding ++ child.text) =
        (front ++ cut) ++ more ∧ back = more ++ (sources behind ++ rest) := by
      refine Text.prefix_of_octets_le ?_ ?_
      · rw [List.append_assoc, ← hcut, htext]
      · rw [Text.octets_append, Text.octets_append, hfront, hsize]
        omega
    rw [List.append_assoc] at hmore
    exact stripWhile_early (fun u v => close_of_open hkept) (blank_of_padding hblank hpadding)
      hbegin
      hend hmore (by rw [hfront, Nat.sub_add_cancel hstart]) hsize hstrip

end Payload

/-- **A byte order mark in front of an envelope** is harmless exactly if the envelope carries
nothing.  Where nothing is cut out of a text, because its body is empty or something is wrong with
it, the mark changes neither the content nor the response.  Where something is cut out, the cut is
made three octets before the place where it is meant, and there is none where that falls into a
character. -/
theorem content_mark {cs : List Char} (hmark : cs.head? ≠ some '\uFEFF') :
    ((∀ c, content cs ≠ .ok (some c)) → content ('\uFEFF' :: cs) = content cs ∧
      ∀ {α : Type} (read : List Char → Except Misreading α), cs.all Text.isBlank = false →
        response read ('\uFEFF' :: cs) = response read cs) ∧
    (∀ c, content cs = .ok (some c) → ∃ start size, 3 ≤ start ∧
      cutOut c.name cs start size = .ok (some c) ∧
      content ('\uFEFF' :: cs) = cutOut c.name cs (start - 3) size) ∧
    ∀ ps root, ReadAs cs ps → elements ps = [root] →
      (content ('\uFEFF' :: cs) = content cs ↔ ∀ child, payload root ≠ .ok (some child)) := by
  have hsame (hnone : ∀ c, content cs ≠ .ok (some c)) : content ('\uFEFF' :: cs) = content cs := by
    rcases content_cases hmark with ⟨hsame, -⟩ | ⟨c, _, _, hc, -⟩
    · exact hsame
    · exact absurd hc (hnone c)
  refine ⟨?_, ?_, ?_⟩
  · intro hnone
    refine ⟨hsame hnone, fun read hblank => ?_⟩
    have hmarked : ('\uFEFF' :: cs).all Text.isBlank = false := by
      rw [List.all_cons, hblank, Bool.and_false]
    simp only [response, hmarked, hblank, hsame hnone]
  · intro c hc
    rcases content_cases hmark with ⟨-, hnone⟩ | ⟨c', start, size, hc', hstart, hcut, hmarked⟩
    · exact absurd hc (hnone c)
    · obtain rfl : c' = c := Option.some.inj (Except.ok.inj (hc'.symm.trans hc))
      exact ⟨start, size, hstart, hcut, hmarked⟩
  · intro ps root hread hroot
    refine ⟨fun hsame child hchild => content_mark_ne hmark hread hroot hchild hsame,
      fun hnone => ?_⟩
    refine hsame fun c hc => ?_
    rw [content_eq_payload hmark hread hroot] at hc
    match hpayload : payload root with
    | .ok (some child) => exact hnone child hpayload
    | .ok none | .error _ =>
        rw [hpayload] at hc
        cases hc

/-- The mark does nothing to an envelope with an empty body,
and it ruins one with an element in it. -/
theorem content_mark_nested :
    "<Envelope><Body> </Body></Envelope>".toList.head? ≠ some '\uFEFF' ∧
    content ('\uFEFF' :: "<Envelope><Body> </Body></Envelope>".toList) = .ok none ∧
    nestedEnvelope.text.head? ≠ some '\uFEFF' ∧ ReadAs nestedEnvelope.text [nestedEnvelope] ∧
    content ('\uFEFF' :: nestedEnvelope.text) ≠ content nestedEnvelope.text := by
  have hempty : "<Envelope><Body> </Body></Envelope>".toList.head? ≠ some '\uFEFF' := by
    decide +kernel
  have hnone : content "<Envelope><Body> </Body></Envelope>".toList = .ok none := by decide +kernel
  have hsame := ((content_mark hempty).1 (by rw [hnone]; exact nofun)).1
  have hmark : nestedEnvelope.text.head? ≠ some '\uFEFF' := by decide +kernel
  have hread : ReadAs nestedEnvelope.text [nestedEnvelope] := by decide +kernel
  have hiff := (content_mark hmark).2.2 _ nestedEnvelope hread rfl
  exact ⟨hempty, hsame.trans hnone, hmark, hread, fun hsame => hiff.mp hsame _ rfl⟩

/-- An envelope that is cut early behind a mark,
and one that is cut in the middle of a character. -/
theorem content_mark_early :
    content "<Envelope><Body><a/></Body></Envelope>".toList = .ok (some ⟨"a", "<a/>".toList⟩) ∧
    content "\uFEFF<Envelope><Body><a/></Body></Envelope>".toList =
      .ok (some ⟨"a", "dy><".toList⟩) ∧
    content "<Envelope><Body>é  <a/></Body></Envelope>".toList = .ok (some ⟨"a", "<a/>".toList⟩) ∧
    ∀ {α : Type} (read : List Char → Except Misreading α),
      response read "\uFEFF<Envelope><Body>é  <a/></Body></Envelope>".toList =
        .error .misplaced := by
  refine ⟨by decide +kernel, by decide +kernel, by decide +kernel, ?_⟩
  intro α read
  have hblank : "\uFEFF<Envelope><Body>é  <a/></Body></Envelope>".toList.all Text.isBlank =
      false := by
    decide +kernel
  have hcontent : content "\uFEFF<Envelope><Body>é  <a/></Body></Envelope>".toList =
      .error .misplaced := by
    decide +kernel
  simp only [response, hblank, hcontent]
  rfl

end Soap

end SoapBindings
