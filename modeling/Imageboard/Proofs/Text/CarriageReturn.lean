import Imageboard.Proofs.Text.FilledLines

/-!
Carriage returns in normalized texts. Normalization drops a carriage return only where a newline
follows it at once, so one may be left in front of a newline: behind another carriage return, or at
the end of a text, where a newline is added. Only then does normalizing again change anything.
-/
namespace Imageboard.Text
open Markup (terminated)

/-- A text with a stretch of it replaced wherever it stands, from left to right and without overlaps.
The number counts what is left of the stretch that was found last. -/
def replaceFrom (old new : List Char) : Nat → List Char → List Char
  | _, [] => []
  | 0, c :: s =>
    if old <+: c :: s then new ++ replaceFrom old new (old.length - 1) s
    else c :: replaceFrom old new 0 s
  | left + 1, _ :: s => replaceFrom old new left s

def replaceEach (old new s : List Char) : List Char := replaceFrom old new 0 s

/-- A carriage return with the newline that it stands in front of. -/
def returnedNewline : List Char := ['\r', '\n']

/-! ## Two characters in a row -/

theorem singleton_prefix_iff (c : Char) (s : List Char) : [c] <+: s ↔ s.head? = some c := by
  cases s with
  | nil => simp
  | cons d s =>
      rw [List.cons_prefix_cons, List.head?_cons, Option.some_inj, eq_comm]
      exact and_iff_left (List.nil_prefix)

theorem singleton_suffix_iff (c : Char) (s : List Char) : [c] <:+ s ↔ s.getLast? = some c := by
  rw [List.getLast?_eq_some_iff]
  constructor
  · rintro ⟨t, rfl⟩
    exact ⟨t, rfl⟩
  · rintro ⟨t, rfl⟩
    exact ⟨t, rfl⟩

theorem returnedNewline_infix_cons_iff (c : Char) (s : List Char) :
    returnedNewline <:+: c :: s ↔ (c = '\r' ∧ s.head? = some '\n') ∨ returnedNewline <:+: s := by
  rw [List.infix_cons_iff]
  refine or_congr_left ?_
  rw [returnedNewline, List.cons_prefix_cons, singleton_prefix_iff, eq_comm]

theorem returnedNewline_infix_concat_iff (s : List Char) :
    returnedNewline <:+: s ++ ['\n'] ↔ s.getLast? = some '\r' ∨ returnedNewline <:+: s := by
  rw [List.infix_concat_iff]
  refine or_congr_left ?_
  rw [List.suffix_concat_iff, ← singleton_suffix_iff]
  constructor
  · rintro (h | ⟨t, ht, hsuffix⟩)
    · cases h
    · have hreturned : ['\r'] ++ ['\n'] = t ++ ['\n'] := ht
      obtain rfl : ['\r'] = t := List.append_cancel_right hreturned
      exact hsuffix
  · exact fun h => .inr ⟨['\r'], rfl, h⟩

/-! ## Dropping what a newline follows -/

/-- Drops a character wherever a newline follows it. -/
def dropBeforeNewline (x : Char) : List Char → List Char
  | [] => []
  | c :: rest =>
    if c = x ∧ rest.head? = some '\n' then dropBeforeNewline x rest
    else c :: dropBeforeNewline x rest

theorem dropCarriageReturns_eq (s : List Char) :
    dropCarriageReturns s = dropBeforeNewline '\r' s := by
  induction s with
  | nil => rfl
  | cons c s ih => rw [dropCarriageReturns, dropBeforeNewline, ih]

theorem squeezeNewlines_eq (s : List Char) : squeezeNewlines s = dropBeforeNewline '\n' s := by
  induction s with
  | nil => rfl
  | cons c s ih => rw [squeezeNewlines, dropBeforeNewline, ih]

theorem getLast?_dropBeforeNewline (x : Char) (s : List Char) :
    (dropBeforeNewline x s).getLast? = s.getLast? := by
  fun_induction dropBeforeNewline x s with
  | case1 => rfl
  | case2 c rest h ih =>
      obtain ⟨after, rfl⟩ := List.head?_eq_some_iff.1 h.2
      rw [ih, List.getLast?_cons_cons]
  | case3 c rest h ih => rw [List.getLast?_cons, List.getLast?_cons, ih]

theorem dropBeforeNewline_sublist (x : Char) (s : List Char) : (dropBeforeNewline x s).Sublist s := by
  fun_induction dropBeforeNewline x s with
  | case1 => exact .slnil
  | case2 c rest h ih => exact ih.cons c
  | case3 c rest h ih => exact ih.cons_cons c

/-- Dropping a carriage return in front of a newline is to replace the two by the newline. -/
theorem dropCarriageReturns_eq_replaceEach (s : List Char) :
    dropCarriageReturns s = replaceEach returnedNewline ['\n'] s := by
  rw [replaceEach]
  fun_induction dropCarriageReturns s with
  | case1 => rfl
  | case2 c rest h ih =>
      obtain ⟨rfl, hrest⟩ := h
      obtain ⟨after, rfl⟩ := List.head?_eq_some_iff.1 hrest
      have hfound : returnedNewline <+: '\r' :: '\n' :: after := ⟨after, rfl⟩
      have hother : ¬ returnedNewline <+: '\n' :: after := by simp [returnedNewline]
      rw [ih, replaceFrom, if_neg hother, replaceFrom, if_pos hfound]
      rfl
  | case3 c rest h ih =>
      have hother : ¬ returnedNewline <+: c :: rest := by
        rw [returnedNewline, List.cons_prefix_cons, singleton_prefix_iff]
        exact fun hfound => h ⟨hfound.1.symm, hfound.2⟩
      rw [replaceFrom, if_neg hother, ih]

/-! ## Carriage returns that are dropped -/

theorem dropCarriageReturns_of_none {s : List Char} (h : ¬ returnedNewline <:+: s) :
    dropCarriageReturns s = s := by
  fun_induction dropCarriageReturns s with
  | case1 => rfl
  | case2 c rest hdropped ih =>
      exact absurd ((returnedNewline_infix_cons_iff c rest).2 (.inl hdropped)) h
  | case3 c rest hkept ih =>
      rw [ih fun hrest => h ((returnedNewline_infix_cons_iff c rest).2 (.inr hrest))]

theorem count_dropCarriageReturns_lt {s : List Char} (h : returnedNewline <:+: s) :
    (dropCarriageReturns s).count '\r' < s.count '\r' := by
  fun_induction dropCarriageReturns s with
  | case1 => exact absurd (List.infix_nil.1 h) (by decide)
  | case2 c rest hdropped ih =>
      have hle : (dropCarriageReturns rest).count '\r' ≤ rest.count '\r' := by
        rw [dropCarriageReturns_eq]
        exact (dropBeforeNewline_sublist '\r' rest).count_le '\r'
      rw [hdropped.1, List.count_cons_self]
      omega
  | case3 c rest hkept ih =>
      have hrest := ((returnedNewline_infix_cons_iff c rest).1 h).resolve_left hkept
      have hlt := ih hrest
      rw [List.count_cons, List.count_cons]
      omega

theorem count_closeLine (s : List Char) : (closeLine s).count '\r' = s.count '\r' := by
  have hnone : ['\n'].count '\r' = 0 := by decide
  rw [closeLine]
  split
  · rfl
  · rw [List.count_append, hnone, Nat.add_zero]

theorem count_dropLeadingNewline (s : List Char) :
    (dropLeadingNewline s).count '\r' = s.count '\r' := by
  cases s with
  | nil => rfl
  | cons c s =>
      rw [dropLeadingNewline]
      split
      · rename_i hc
        rw [hc, List.count_cons_of_ne (by decide)]
      · rfl

theorem count_squeezeNewlines (s : List Char) : (squeezeNewlines s).count '\r' = s.count '\r' := by
  fun_induction squeezeNewlines s with
  | case1 => rfl
  | case2 c rest h ih => rw [ih, h.1, List.count_cons_of_ne (by decide)]
  | case3 c rest h ih => rw [List.count_cons, List.count_cons, ih]

/-- All that is dropped besides newlines are carriage returns in front of newlines. -/
theorem count_normalizeNewlines (s : List Char) :
    (normalizeNewlines s).count '\r' = (dropCarriageReturns s).count '\r' := by
  rw [normalizeNewlines, count_closeLine, count_dropLeadingNewline, count_squeezeNewlines]

/-! ## Carriage returns that are left in front of a newline -/

/-- After the drop a newline follows where one followed before, or a dropped carriage return. -/
theorem head?_dropCarriageReturns_iff (s : List Char) :
    (dropCarriageReturns s).head? = some '\n' ↔ s.head? = some '\n' ∨ returnedNewline <+: s := by
  cases s with
  | nil => simp [dropCarriageReturns, returnedNewline]
  | cons c s =>
      rw [dropCarriageReturns]
      split
      · rename_i h
        obtain ⟨rfl, hs⟩ := h
        obtain ⟨after, rfl⟩ := List.head?_eq_some_iff.1 hs
        have hkept : ¬ ('\n' = '\r' ∧ after.head? = some '\n') := by simp
        rw [dropCarriageReturns, if_neg hkept]
        exact iff_of_true rfl (.inr ⟨after, rfl⟩)
      · rename_i h
        rw [returnedNewline, List.cons_prefix_cons, singleton_prefix_iff, List.head?_cons]
        refine (or_iff_left ?_).symm
        exact fun hfound => h ⟨hfound.1.symm, hfound.2⟩

theorem infix_dropCarriageReturns_iff (s : List Char) :
    returnedNewline <:+: dropCarriageReturns s ↔ '\r' :: returnedNewline <:+: s := by
  fun_induction dropCarriageReturns s with
  | case1 => simp [returnedNewline]
  | case2 c rest h ih =>
      obtain ⟨after, rfl⟩ := List.head?_eq_some_iff.1 h.2
      rw [ih, List.infix_cons_iff (a := c), List.cons_prefix_cons]
      refine (or_iff_right ?_).symm
      rintro ⟨-, hprefix⟩
      exact absurd (List.cons_prefix_cons.1 hprefix).1 (by decide)
  | case3 c rest h ih =>
      rw [returnedNewline_infix_cons_iff, head?_dropCarriageReturns_iff, ih, List.infix_cons_iff,
        List.cons_prefix_cons]
      refine or_congr_left ?_
      -- One that is kept comes to stand in front of a newline only where another is dropped behind it.
      constructor
      · rintro ⟨rfl, hrest | hprefix⟩
        · exact absurd ⟨rfl, hrest⟩ h
        · exact ⟨rfl, hprefix⟩
      · rintro ⟨rfl, hprefix⟩
        exact ⟨rfl, .inr hprefix⟩

theorem infix_squeezeNewlines_iff (s : List Char) :
    returnedNewline <:+: squeezeNewlines s ↔ returnedNewline <:+: s := by
  fun_induction squeezeNewlines s with
  | case1 => exact Iff.rfl
  | case2 c rest h ih =>
      rw [ih, returnedNewline_infix_cons_iff]
      refine (or_iff_right ?_).symm
      rintro ⟨hc, -⟩
      exact absurd (h.1.symm.trans hc) (by decide)
  | case3 c rest h ih =>
      rw [returnedNewline_infix_cons_iff, returnedNewline_infix_cons_iff, head?_squeezeNewlines, ih]

theorem infix_dropLeadingNewline_iff (s : List Char) :
    returnedNewline <:+: dropLeadingNewline s ↔ returnedNewline <:+: s := by
  cases s with
  | nil => exact Iff.rfl
  | cons c s =>
      rw [dropLeadingNewline]
      split
      · rename_i hc
        rw [returnedNewline_infix_cons_iff, hc]
        refine (or_iff_right ?_).symm
        exact fun h => absurd h.1 (by decide)
      · exact Iff.rfl

theorem getLast?_dropLeadingNewline_iff (s : List Char) :
    (dropLeadingNewline s).getLast? = some '\r' ↔ s.getLast? = some '\r' := by
  cases s with
  | nil => exact Iff.rfl
  | cons c s =>
      rw [dropLeadingNewline]
      split
      · rename_i hc
        rw [hc, List.getLast?_cons]
        cases s.getLast? with
        | none => simp
        | some last => simp
      · exact Iff.rfl

theorem infix_closeLine_iff (s : List Char) :
    returnedNewline <:+: closeLine s ↔ s.getLast? = some '\r' ∨ returnedNewline <:+: s := by
  rw [closeLine]
  split
  · rename_i hlast
    rw [hlast]
    exact (or_iff_right (by decide)).symm
  · exact returnedNewline_infix_concat_iff s

/-- In a normalized text a carriage return stands in front of a newline only if there were two of
them in front of a newline, or one at the end. -/
theorem infix_normalizeNewlines_iff (s : List Char) : returnedNewline <:+: normalizeNewlines s ↔
    s.getLast? = some '\r' ∨ '\r' :: returnedNewline <:+: s := by
  rw [normalizeNewlines, infix_closeLine_iff, getLast?_dropLeadingNewline_iff,
    infix_dropLeadingNewline_iff, infix_squeezeNewlines_iff, infix_dropCarriageReturns_iff,
    squeezeNewlines_eq, getLast?_dropBeforeNewline, dropCarriageReturns_eq,
    getLast?_dropBeforeNewline]

/-! ## Normalizing again -/

theorem not_infix_of_squeezed {s : List Char} (h : Squeezed s) : ¬ ['\n', '\n'] <:+: s :=
  fun hrun => (List.isChain_pair.1 (h.mono hrun)) ⟨rfl, rfl⟩

theorem squeezeNewlines_of_squeezed {s : List Char} (h : Squeezed s) : squeezeNewlines s = s := by
  fun_induction squeezeNewlines s with
  | case1 => rfl
  | case2 c rest hrun ih =>
      exact absurd ⟨hrun.1, rfl⟩ ((List.isChain_cons.1 h).1 '\n' hrun.2)
  | case3 c rest hkept ih => rw [ih h.tail]

theorem getLast?_closeLine (s : List Char) : (closeLine s).getLast? = some '\n' := by
  rw [closeLine]
  split
  · assumption
  · exact List.getLast?_concat

/-- A normalized text starts with a newline only if it is nothing else. -/
theorem head?_normalizeNewlines_iff (s : List Char) :
    (normalizeNewlines s).head? = some '\n' ↔ normalizeNewlines s = ['\n'] := by
  refine ⟨fun h => ?_, fun h => by rw [h]; rfl⟩
  by_contra hne
  rw [normalizeNewlines_eq] at h hne
  cases hlines : filledLines (dropCarriageReturns s) with
  | nil => exact hne (if_pos hlines)
  | cons line lines =>
      obtain ⟨hline, hnewline⟩ := of_mem_filledLines (hlines ▸ List.mem_cons_self)
      rw [if_neg (by simp [hlines]), hlines, Markup.terminated_cons,
        List.head?_append_of_ne_nil _ hline] at h
      exact hnewline (List.mem_of_head? h)

theorem dropLeadingNewline_of_head {s : List Char} (h : s.head? ≠ some '\n') :
    dropLeadingNewline s = s := by
  cases s with
  | nil => rfl
  | cons c s => exact if_neg fun hc => h (congrArg some hc)

theorem normalizeNewlines_of_normal {s : List Char} (hreturn : ¬ returnedNewline <:+: s)
    (hsqueezed : Squeezed s) (hhead : s.head? ≠ some '\n') (hlast : s.getLast? = some '\n') :
    normalizeNewlines s = s := by
  rw [normalizeNewlines, dropCarriageReturns_of_none hreturn, squeezeNewlines_of_squeezed hsqueezed,
    dropLeadingNewline_of_head hhead, closeLine, if_pos hlast]

/-- A normalized text in which no carriage return stands in front of a newline stays as it is. -/
theorem normalizeNewlines_of_normalized {s : List Char}
    (h : ¬ returnedNewline <:+: normalizeNewlines s) :
    normalizeNewlines (normalizeNewlines s) = normalizeNewlines s := by
  by_cases hempty : normalizeNewlines s = ['\n']
  · rw [hempty]
    rfl
  · exact normalizeNewlines_of_normal h (squeezed_normalizeNewlines s)
      (mt (head?_normalizeNewlines_iff s).1 hempty) (getLast?_closeLine _)

/-- Carriage returns are lost where a second normalization finds one in front of a newline. -/
theorem normalizeNewlines_normalizeNewlines_iff (s : List Char) :
    normalizeNewlines (normalizeNewlines s) = normalizeNewlines s ↔
      ¬ returnedNewline <:+: normalizeNewlines s := by
  refine ⟨fun hsame hinfix => ?_, normalizeNewlines_of_normalized⟩
  have hlost := count_dropCarriageReturns_lt hinfix
  rw [← count_normalizeNewlines, hsame] at hlost
  exact Nat.lt_irrefl _ hlost

/-- Normalization keeps the lines of a text that are not empty, where a carriage return in front of
a newline counts as part of the line end; without such lines a single newline is left. So no newline
follows another, a newline comes first only if it is the whole, and exactly one comes last.
Normalizing again changes nothing exactly if there are neither two carriage returns in front of a
newline nor one at the end, which is exactly if none is left in front of a newline. -/
theorem normalizeNewlines_filledLines (s : List Char) :
    (normalizeNewlines s = match filledLines (replaceEach ['\r', '\n'] ['\n'] s) with
      | [] => ['\n']
      | line :: lines => terminated (line :: lines)) ∧
    ¬ ['\n', '\n'] <:+: normalizeNewlines s ∧
    (['\n'] <+: normalizeNewlines s ↔ normalizeNewlines s = ['\n']) ∧
    (∃ content, normalizeNewlines s = content ++ ['\n'] ∧ ¬ ['\n'] <:+ content) ∧
    (normalizeNewlines (normalizeNewlines s) = normalizeNewlines s ↔
      ¬ ['\r', '\r', '\n'] <:+: s ∧ ¬ ['\r'] <:+ s) ∧
    (normalizeNewlines (normalizeNewlines s) = normalizeNewlines s ↔
      ¬ ['\r', '\n'] <:+: normalizeNewlines s) := by
  have hsqueezed := not_infix_of_squeezed (squeezed_normalizeNewlines s)
  have hagain := normalizeNewlines_normalizeNewlines_iff s
  refine ⟨?_, hsqueezed, ?_, ?_, ?_, hagain⟩
  · rw [normalizeNewlines_eq, dropCarriageReturns_eq_replaceEach, returnedNewline]
    cases filledLines (replaceEach ['\r', '\n'] ['\n'] s) with
    | nil => rfl
    | cons line lines => rfl
  · rw [singleton_prefix_iff]
    exact head?_normalizeNewlines_iff s
  · have hlast : (normalizeNewlines s).getLast? = some '\n' := getLast?_closeLine _
    obtain ⟨content, hcontent⟩ := List.getLast?_eq_some_iff.1 hlast
    refine ⟨content, hcontent, ?_⟩
    rintro ⟨before, rfl⟩
    rw [List.append_assoc] at hcontent
    exact hsqueezed (hcontent ▸ (List.suffix_append before ['\n', '\n']).isInfix)
  · rw [hagain, infix_normalizeNewlines_iff, not_or, singleton_suffix_iff]
    exact and_comm

/-- A carriage return that is left in front of a newline is dropped the second time. -/
example : normalizeNewlines "a\r\r\n\n\r\nb".toList = "a\r\nb\n".toList ∧
    normalizeNewlines "a\r\nb\n".toList = "a\nb\n".toList := by
  constructor <;> rfl

end Imageboard.Text
