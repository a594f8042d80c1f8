import CommandGrammar.Proofs.Completion
import CommandGrammar.Proofs.Offered

/-! The layout of help. Of the entries that are added the first one of each key is shown, by group
and within a group in the order in which they were added. Each has a line of its own, an empty line
stands wherever the group changes, and all texts begin in the same column. The width of that column
is measured in bytes, of which a key has at least as many as characters. -/

namespace CommandGrammar

/-! ### Which entries are shown -/

/-- The entries are the first ones of their keys, and every key that was added has one. -/
structure HelpTable.Firsts (added shown : List HelpEntry) : Prop where
  nodup : (shown.map (·.key)).Nodup
  mem_iff : ∀ e, e ∈ shown ↔ added.find? (·.key == e.key) = some e

/-- The first entry has a smaller group than the second, or has the same one and was added before
it. -/
def HelpTable.Before (added : List HelpEntry) (a b : HelpEntry) : Prop :=
  a.group < b.group ∨ a.group = b.group ∧ added.idxOf a < added.idxOf b

namespace HelpTable

theorem Firsts.mem_added {added shown : List HelpEntry} (h : Firsts added shown) {e : HelpEntry}
    (he : e ∈ shown) : e ∈ added := List.mem_of_find?_eq_some ((h.mem_iff e).mp he)

/-- An entry whose key was added before changes nothing. -/
theorem Firsts.concat_of_any {added shown : List HelpEntry} (h : Firsts added shown) {x : HelpEntry}
    (hx : added.any (·.key == x.key) = true) : Firsts (added ++ [x]) shown where
  nodup := h.nodup
  mem_iff e := by
    rw [h.mem_iff, List.find?_append]
    by_cases hkey : x.key = e.key
    · rw [hkey, List.any_eq_true] at hx
      obtain ⟨first, hfirst⟩ := Option.isSome_iff_exists.mp (List.find?_isSome.mpr hx)
      rw [hfirst, Option.some_or]
    · rw [List.find?_singleton, if_neg (by simpa using hkey), Option.or_none]

/-- An entry with a new key is the first one of its key. -/
theorem Firsts.concat {added shown : List HelpEntry} (h : Firsts added shown) {x : HelpEntry}
    (hx : added.any (·.key == x.key) = false) : Firsts (added ++ [x]) (shown ++ [x]) := by
  have hnone : added.find? (·.key == x.key) = none :=
    List.find?_eq_none.mpr (List.any_eq_false.mp hx)
  have hnew : ∀ e ∈ shown, e.key ≠ x.key := by
    intro e he hkey
    have hsome := (h.mem_iff e).mp he
    rw [hkey, hnone] at hsome
    cases hsome
  refine ⟨?_, fun e => ?_⟩
  · rw [List.map_append, List.nodup_append']
    refine ⟨h.nodup, List.nodup_singleton _, ?_⟩
    rw [List.map_singleton, List.disjoint_singleton, List.mem_map]
    rintro ⟨e, he, hkey⟩
    exact hnew e he hkey
  · rw [List.mem_append, List.mem_singleton, List.find?_append, List.find?_singleton]
    by_cases hkey : x.key = e.key
    · rw [if_pos (by simpa using hkey), ← hkey, hnone, Option.none_or, Option.some_inj]
      exact ⟨fun he => (he.resolve_left fun he => hnew e he hkey.symm).symm, fun he => .inr he.symm⟩
    · rw [if_neg (by simpa using hkey), Option.or_none, h.mem_iff]
      exact ⟨fun he => he.resolve_right fun he => hkey (congrArg _ he.symm), .inl⟩

/-- The table has the first entries of all keys, in the order in which they were added. -/
theorem firsts_insert (added : List HelpEntry) :
    Firsts added (added.foldl insert empty).entries ∧
      (added.foldl insert empty).entries.Pairwise fun a b => added.idxOf a < added.idxOf b := by
  induction added using List.reverseRecOn with
  | nil => exact ⟨⟨.nil, fun e => by simp [empty]⟩, .nil⟩
  | append_singleton added x ih =>
    obtain ⟨hfirsts, horder⟩ := ih
    have hkeep : (added.foldl insert empty).entries.Pairwise fun a b =>
        (added ++ [x]).idxOf a < (added ++ [x]).idxOf b :=
      horder.imp_of_mem fun ha hb hab => by
        rwa [List.idxOf_append_of_mem (hfirsts.mem_added ha),
          List.idxOf_append_of_mem (hfirsts.mem_added hb)]
    have hsome := get?_foldl_insert_isSome added empty x.key
    rw [show (empty.get? x.key).isSome = false from rfl, Bool.false_or] at hsome
    rw [List.foldl_append, List.foldl_cons, List.foldl_nil, insert]
    split
    · next h => exact ⟨hfirsts.concat_of_any (hsome.symm.trans h), hkeep⟩
    · next h =>
      have hany : added.any (·.key == x.key) = false :=
        hsome.symm.trans (eq_false_of_ne_true h)
      refine ⟨hfirsts.concat hany,
        List.pairwise_append.mpr ⟨hkeep, List.pairwise_singleton _ _, ?_⟩⟩
      intro a ha b hb
      obtain rfl := List.mem_singleton.mp hb
      have hmem := hfirsts.mem_added ha
      have hnot : b ∉ added := by
        intro hin
        rw [List.any_eq_false] at hany
        exact hany b hin (by simp)
      rw [List.idxOf_append_of_mem hmem, List.idxOf_append_of_notMem hnot]
      exact Nat.lt_of_lt_of_le (List.idxOf_lt_length_iff.mpr hmem) (Nat.le_add_right _ _)

/-! ### In which order -/

theorem group_trans (a b c : HelpEntry) (hab : decide (a.group ≤ b.group) = true)
    (hbc : decide (b.group ≤ c.group) = true) : decide (a.group ≤ c.group) = true :=
  decide_eq_true (Nat.le_trans (of_decide_eq_true hab) (of_decide_eq_true hbc))

theorem group_total (a b : HelpEntry) :
    (decide (a.group ≤ b.group) || decide (b.group ≤ a.group)) = true := by
  rw [Bool.or_eq_true, decide_eq_true_eq, decide_eq_true_eq]
  exact Nat.le_total _ _

/-- Sorting keeps the order within each group. -/
theorem filter_sorted (t : HelpTable) (group : Nat) :
    t.sorted.filter (·.group == group) = t.entries.filter (·.group == group) := by
  have hperm : t.sorted.Perm t.entries := List.mergeSort_perm _ _
  have hgroup : (t.entries.filter (·.group == group)).Pairwise fun a b =>
      decide (a.group ≤ b.group) = true := by
    refine List.pairwise_of_forall_mem_list fun a ha b hb => decide_eq_true ?_
    rw [beq_iff_eq.mp (List.mem_filter.mp ha).2, beq_iff_eq.mp (List.mem_filter.mp hb).2]
  have hsub : (t.entries.filter (·.group == group)).Sublist t.sorted :=
    List.sublist_mergeSort group_trans group_total hgroup List.filter_sublist
  have hfilter := hsub.filter (·.group == group)
  rw [List.filter_filter] at hfilter
  simp only [Bool.and_self] at hfilter
  exact (hfilter.eq_of_length (hperm.filter _).length_eq.symm).symm

theorem firsts_sorted (added : List HelpEntry) :
    Firsts added (added.foldl insert empty).sorted := by
  obtain ⟨hfirsts, -⟩ := firsts_insert added
  have hperm : (added.foldl insert empty).sorted.Perm (added.foldl insert empty).entries :=
    List.mergeSort_perm _ _
  exact ⟨(hperm.map _).nodup_iff.mpr hfirsts.nodup,
    fun e => hperm.mem_iff.trans (hfirsts.mem_iff e)⟩

theorem pairwise_sorted (added : List HelpEntry) :
    (added.foldl insert empty).sorted.Pairwise (Before added) := by
  obtain ⟨-, horder⟩ := firsts_insert added
  rw [List.pairwise_iff_forall_sublist]
  intro a b hab
  have hle : a.group ≤ b.group := of_decide_eq_true
    (List.pairwise_iff_forall_sublist.mp (List.pairwise_mergeSort group_trans group_total _) hab)
  rcases Nat.lt_or_eq_of_le hle with hlt | heq
  · exact .inl hlt
  · have hgroup : [a, b].filter (·.group == a.group) = [a, b] := by simp [heq]
    have hsub := hab.filter (·.group == a.group)
    rw [hgroup, filter_sorted] at hsub
    exact .inr ⟨heq, List.pairwise_iff_forall_sublist.mp horder (hsub.trans List.filter_sublist)⟩

end HelpTable

/-! ### Lines -/

/-- The key is not blank, and neither the key nor the text has a line break in it or white space at
its end. -/
structure HelpEntry.IsTidy (e : HelpEntry) : Prop where
  key_solid : ∃ c ∈ e.key.toList, Text.isBlank c = false
  key_line : '\n' ∉ e.key.toList
  key_last : ∀ c ∈ e.key.toList.getLast?, Text.isBlank c = false
  text_line : '\n' ∉ e.text.toList
  text_last : ∀ c ∈ e.text.toList.getLast?, Text.isBlank c = false

theorem HelpEntry.isTidy_iff (e : HelpEntry) :
    (e.key.toList.any (fun c => !Text.isBlank c) && !e.key.toList.contains '\n' &&
      !e.key.toList.getLast?.any Text.isBlank && !e.text.toList.contains '\n' &&
      !e.text.toList.getLast?.any Text.isBlank) = true ↔ e.IsTidy := by
  have hlast (o : Option Char) :
      (!o.any Text.isBlank) = true ↔ ∀ c ∈ o, Text.isBlank c = false := by
    cases o <;> simp
  have hline (cs : List Char) : (!cs.contains '\n') = true ↔ '\n' ∉ cs := by simp
  have hsolid (cs : List Char) :
      cs.any (fun c => !Text.isBlank c) = true ↔ ∃ c ∈ cs, Text.isBlank c = false := by simp
  rw [Bool.and_eq_true, Bool.and_eq_true, Bool.and_eq_true, Bool.and_eq_true, hsolid, hline, hline,
    hlast, hlast]
  exact ⟨fun h => ⟨h.1.1.1.1, h.1.1.1.2, h.1.1.2, h.1.2, h.2⟩,
    fun h => ⟨⟨⟨⟨h.key_solid, h.key_line⟩, h.key_last⟩, h.text_line⟩, h.text_last⟩⟩

instance (e : HelpEntry) : Decidable e.IsTidy := decidable_of_iff _ e.isTidy_iff

/-- The row is that of the entry: two spaces, the key and, if there is a text, spaces up to the
column and the text. It is not blank. -/
structure HelpEntry.Fills (column : Nat) (e : HelpEntry) (row : List Char) : Prop where
  solid : ∃ c ∈ row, Text.isBlank c = false
  spaced : ∃ padding, row = ' ' :: ' ' :: (e.key.toList ++ (padding ++ e.text.toList)) ∧
    (∀ c ∈ padding, c = ' ') ∧ (e.text = "" → padding = []) ∧
    (e.text ≠ "" → padding ≠ [] ∧ 2 + e.key.length + padding.length = column)

namespace HelpTable

/-- The rows are those of the entries, with a blank one between entries of different groups. -/
inductive Layout (column : Nat) : List HelpEntry → List (List Char) → Prop
  | nil : Layout column [] []
  | one {e : HelpEntry} {row : List Char} (fills : e.Fills column row) : Layout column [e] [row]
  | same {a b : HelpEntry} {es : List HelpEntry} {row : List Char} {rows : List (List Char)}
      (fills : a.Fills column row) (group : a.group = b.group)
      (rest : Layout column (b :: es) rows) : Layout column (a :: b :: es) (row :: rows)
  | apart {a b : HelpEntry} {es : List HelpEntry} {row : List Char} {rows : List (List Char)}
      (fills : a.Fills column row) (group : a.group ≠ b.group)
      (rest : Layout column (b :: es) rows) : Layout column (a :: b :: es) (row :: [] :: rows)

theorem toList_line (width : Nat) (e : HelpEntry) :
    (line width e).toList = Text.dropTrailing Text.isBlank (' ' :: ' ' :: (e.key.toList ++
      ((List.replicate (width - e.key.length) ' ' ++ [' ']) ++ e.text.toList))) ++ ['\n'] := by
  rw [line, String.toList_append, Text.trimEnd, String.toList_ofList]
  simp only [String.toList_append, String.toList_ofList, List.append_assoc]
  rfl

/-- The line of an entry is a row that shows it, and the end of that row. -/
theorem exists_fills {width : Nat} {e : HelpEntry} (h : e.IsTidy) (hwidth : e.key.length ≤ width) :
    ∃ row, (line width e).toList = row ++ ['\n'] ∧ '\n' ∉ row ∧ e.Fills (2 + width + 1) row := by
  obtain ⟨c, hc, hsolid⟩ := h.key_solid
  rw [toList_line]
  generalize hpadding : List.replicate (width - e.key.length) ' ' ++ [' '] = padding
  have hspaces : ∀ d ∈ padding, d = ' ' := by
    rw [← hpadding, List.forall_mem_append, List.forall_mem_singleton]
    exact ⟨fun d hd => List.eq_of_mem_replicate hd, rfl⟩
  by_cases htext : e.text = ""
  · -- the spaces behind the key are cut off with the end of the line
    have hkey : ∀ d ∈ (' ' :: ' ' :: e.key.toList).getLast?, Text.isBlank d = false := by
      have hlast := h.key_last
      rwa [← List.getLast?_append_of_ne_nil [' ', ' '] (List.ne_nil_of_mem hc)] at hlast
    have hrow : Text.dropTrailing Text.isBlank (' ' :: ' ' :: (e.key.toList ++
        (padding ++ e.text.toList))) = ' ' :: ' ' :: e.key.toList := by
      have hblank : ∀ d ∈ padding, Text.isBlank d = true := fun d hd => hspaces d hd ▸ rfl
      rw [htext, String.toList_empty, List.append_nil, ← List.cons_append, ← List.cons_append,
        Text.dropTrailing_append hblank, Text.dropTrailing_eq_self hkey]
    refine ⟨_, by rw [hrow], ?_, ⟨c, ?_, hsolid⟩, [], ?_, nofun, fun _ => rfl, fun hne => ?_⟩
    · simpa using h.key_line
    · exact List.mem_cons_of_mem _ (List.mem_cons_of_mem _ hc)
    · rw [htext, String.toList_empty, List.append_nil, List.append_nil]
    · exact absurd htext hne
  · have hlast : ∀ d ∈ (' ' :: ' ' :: (e.key.toList ++ (padding ++ e.text.toList))).getLast?,
        Text.isBlank d = false := by
      have hlast := h.text_last
      rw [← List.getLast?_append_of_ne_nil (' ' :: ' ' :: (e.key.toList ++ padding))
        (mt String.toList_eq_nil_iff.mp htext)] at hlast
      rwa [List.cons_append, List.cons_append, List.append_assoc] at hlast
    refine ⟨_, by rw [Text.dropTrailing_eq_self hlast], ?_, ⟨c, ?_, hsolid⟩, padding, rfl, hspaces,
      fun hempty => absurd hempty htext, fun _ => ⟨?_, ?_⟩⟩
    · have hpad : '\n' ∉ padding := fun hmem => absurd (hspaces _ hmem) (by decide)
      simp [h.key_line, h.text_line, hpad]
    · simp [hc]
    · rw [← hpadding]
      exact List.concat_ne_nil _ _
    · rw [← hpadding, List.length_append, List.length_replicate, List.length_singleton]
      omega

/-- A row in front of other lines is the first one of them. -/
theorem splitOn_row {row : List Char} (h : '\n' ∉ row) (rest : List Char) :
    (row ++ ['\n'] ++ rest).splitOn '\n' = row :: rest.splitOn '\n' := by
  have hrow : ∀ c ∈ row, (c == '\n') = false := by
    intro c hc
    rw [beq_eq_false_iff_ne]
    rintro rfl
    exact h hc
  rw [List.append_assoc, List.singleton_append]
  exact List.splitOnP_append_cons_of_forall_mem hrow '\n' rfl rest

theorem lines_cons (width : Nat) (group : Option Nat) (e : HelpEntry) (es : List HelpEntry) :
    (lines width group (e :: es)).toList =
      (if group.any (· != e.group) then ['\n'] else []) ++
        ((line width e).toList ++ (lines width (some e.group) es).toList) := by
  rw [lines, String.toList_append, String.toList_append, List.append_assoc]
  split <;> rfl

theorem lines_none (width : Nat) (e : HelpEntry) (es : List HelpEntry) :
    (lines width none (e :: es)).toList =
      (line width e).toList ++ (lines width (some e.group) es).toList := by
  rw [lines_cons, if_neg (by simp), List.nil_append]

/-- The lines of entries whose keys are not too wide are laid out. -/
theorem exists_layout {width : Nat} {es : List HelpEntry}
    (h : ∀ e ∈ es, e.IsTidy ∧ e.key.length ≤ width) :
    ∃ rows, Layout (2 + width + 1) es rows ∧
      (lines width none es).toList.splitOn '\n' = rows ++ [[]] := by
  induction es with
  | nil => exact ⟨[], .nil, rfl⟩
  | cons a es ih =>
    rw [List.forall_mem_cons] at h
    obtain ⟨row, hline, hnone, fills⟩ := exists_fills h.1.1 h.1.2
    obtain ⟨rows, hrows, hsplit⟩ := ih h.2
    have hfirst : (lines width none (a :: es)).toList.splitOn '\n' =
        row :: (lines width (some a.group) es).toList.splitOn '\n' := by
      rw [lines_none, hline, splitOn_row hnone]
    rw [hfirst]
    cases es with
    | nil => exact ⟨[row], .one fills, rfl⟩
    | cons b es =>
      rw [lines_cons, ← lines_none]
      by_cases hgroup : a.group = b.group
      · rw [if_neg (by simp [hgroup]), List.nil_append, hsplit]
        exact ⟨row :: rows, .same fills hgroup hrows, rfl⟩
      · have hblank := @splitOn_row [] List.not_mem_nil (lines width none (b :: es)).toList
        rw [List.nil_append] at hblank
        rw [if_pos (by simpa using hgroup), hblank, hsplit]
        exact ⟨row :: [] :: rows, .apart fills hgroup hrows, rfl⟩

theorem le_foldl_max (es : List HelpEntry) (width : Nat) :
    width ≤ es.foldl (fun width e => max width e.key.utf8ByteSize) width ∧
      ∀ e ∈ es, e.key.utf8ByteSize ≤
        es.foldl (fun width e => max width e.key.utf8ByteSize) width := by
  induction es generalizing width with
  | nil => exact ⟨Nat.le_refl _, nofun⟩
  | cons e es ih =>
    obtain ⟨hwidth, hes⟩ := ih (max width e.key.utf8ByteSize)
    exact ⟨Nat.le_trans (Nat.le_max_left _ _) hwidth,
      List.forall_mem_cons.mpr ⟨Nat.le_trans (Nat.le_max_right _ _) hwidth, hes⟩⟩

/-- A key has no more characters than bytes. -/
theorem length_key_le_keyWidth (t : HelpTable) {e : HelpEntry} (he : e ∈ t.entries) :
    e.key.length ≤ t.keyWidth := by
  have hbytes : e.key.length ≤ e.key.utf8ByteSize := by
    rw [← String.length_toList, Text.utf8ByteSize_eq]
    induction e.key.toList with
    | nil => exact Nat.le_refl 0
    | cons c cs ih =>
      have hc := c.utf8Size_pos
      rw [List.length_cons, Text.size_cons]
      omega
  exact Nat.le_trans hbytes ((le_foldl_max t.entries 0).2 e he)

/-- Help is laid out in lines. The first entry of each key is shown in one, in the order of the
groups and in a group in the order in which the entries were added. An empty line stands between
entries of different groups and nowhere else, and all texts begin in the same column. -/
theorem format_laid_out {added : List HelpEntry} (h : ∀ e ∈ added, e.IsTidy) :
    ∃ shown rows column, Firsts added shown ∧ shown.Pairwise (Before added) ∧
      Layout column shown rows ∧
      (added.foldl insert empty).format.toList.splitOn '\n' = rows ++ [[]] := by
  have hfirsts := firsts_sorted added
  have htidy : ∀ e ∈ (added.foldl insert empty).sorted,
      e.IsTidy ∧ e.key.length ≤ (added.foldl insert empty).keyWidth := by
    intro e he
    have hentry : e ∈ (added.foldl insert empty).entries := List.mem_mergeSort.mp he
    exact ⟨h e (hfirsts.mem_added he), length_key_le_keyWidth _ hentry⟩
  obtain ⟨rows, hlayout, hsplit⟩ := exists_layout htidy
  exact ⟨_, rows, _, hfirsts, pairwise_sorted added, hlayout, hsplit⟩

/-- Two groups, a key of more bytes than characters, an entry without a text, and a key that is
added twice. -/
theorem format_laid_out_size :
    let added : List HelpEntry :=
      [⟨"quit", "Leave", 1⟩, ⟨"größe", "Size", 0⟩, ⟨"x", "", 0⟩, ⟨"quit", "Other", 0⟩]
    (∀ e ∈ added, e.IsTidy) ∧
    (added.foldl insert empty).format = "  größe   Size\n  x\n\n  quit    Leave\n" ∧
    ∃ shown rows column, Firsts added shown ∧ shown.Pairwise (Before added) ∧
      Layout column shown rows ∧
      (added.foldl insert empty).format.toList.splitOn '\n' = rows ++ [[]] := by
  intro added
  have htidy : ∀ e ∈ added, e.IsTidy := by decide +kernel
  have hentries : (added.foldl insert empty).entries =
      [⟨"quit", "Leave", 1⟩, ⟨"größe", "Size", 0⟩, ⟨"x", "", 0⟩] := by decide +kernel
  have hsorted : (added.foldl insert empty).sorted =
      [⟨"größe", "Size", 0⟩, ⟨"x", "", 0⟩, ⟨"quit", "Leave", 1⟩] := by
    rw [sorted, hentries]
    simp [List.mergeSort, List.MergeSort.Internal.splitInTwo, List.splitAt, List.splitAt.go]
  have hformat : (added.foldl insert empty).format =
      "  größe   Size\n  x\n\n  quit    Leave\n" := by
    rw [format, hsorted]
    decide +kernel
  exact ⟨htidy, hformat, format_laid_out htidy⟩

end HelpTable

end CommandGrammar
