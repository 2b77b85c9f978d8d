import DocAudit.Markdown.Label
import DocAudit.Proofs.Text.Pieces
import DocAudit.Proofs.Text.Trim

/-!
# Lines of labels

A line gives a value to a label if it consists of blanks, an optional bullet, the label in bold with
a colon and the value (`IsLabelLine`). The first such line between newlines tells the value of the
label, and if there is nothing but blanks behind the label there is none (`label?_eq_iff`).
-/

namespace DocAudit.Markdown

open Text

variable {label line rest s t value : List Char} {lines : List (List Char)} {text : String}

/-! ## The form of a line -/

/-- An optional bullet with blanks behind it. -/
def IsBullet (s : List Char) : Prop :=
  s = [] ∨ ∃ mark blanks, mark ∈ ['-', '*', '+'] ∧ blanks ≠ [] ∧
    (∀ c ∈ blanks, isSpaceOrTab c = true) ∧ s = mark :: blanks

/-- A label in bold with a colon. -/
def bold (label : List Char) : List Char := '*' :: '*' :: label ++ [':', '*', '*']

/-- A line of a label, with what follows the label. -/
def IsLabelLine (label line rest : List Char) : Prop :=
  ∃ indent bullet, (∀ c ∈ indent, isSpaceOrTab c = true) ∧ IsBullet bullet ∧
    line = indent ++ bullet ++ bold label ++ rest

/-- The first line of a label among some lines, by what follows the label. -/
def IsFirstLabelLine (label : List Char) (lines : List (List Char)) (rest : List Char) : Prop :=
  ∃ before line after, lines = before ++ line :: after ∧
    (∀ other ∈ before, ∀ r, ¬IsLabelLine label other r) ∧ IsLabelLine label line rest

/-- The value of a label among some lines: the text behind the label on its first line, without the
spaces and tabs at either end, unless there is nothing else. -/
inductive HasValue (label : List Char) (lines : List (List Char)) : Option String → Prop
  | absent :
      (∀ line ∈ lines, ∀ rest, ¬IsLabelLine label line rest) → HasValue label lines none
  | blank {rest : List Char} : IsFirstLabelLine label lines rest →
      (∀ c ∈ rest, isSpaceOrTab c = true) → HasValue label lines none
  | given {rest value : List Char} : IsFirstLabelLine label lines rest → value ≠ [] →
      IsStripped isSpaceOrTab rest value → HasValue label lines (some (String.ofList value))

/-! ## Reading a line -/

theorem afterText_append (p r : List Char) : afterText p (p ++ r) = some r := by
  induction p with
  | nil => rfl
  | cons c p ih => simpa [afterText] using ih

theorem afterText_eq_some_iff {p r : List Char} : afterText p s = some r ↔ s = p ++ r :=
  ⟨eq_append_of_afterText, fun h => h ▸ afterText_append p r⟩

/-- What is read over are blanks and a bullet. -/
theorem exists_eq_append_afterBullet (s : List Char) : ∃ indent bullet,
    (∀ c ∈ indent, isSpaceOrTab c = true) ∧ IsBullet bullet ∧
    s = indent ++ bullet ++ afterBullet s := by
  have hrun : ∀ s : List Char, ∀ c ∈ s.takeWhile isSpaceOrTab, isSpaceOrTab c = true :=
    fun _ => List.all_eq_true.1 List.all_takeWhile
  have hs : s.takeWhile isSpaceOrTab ++ s.dropWhile isSpaceOrTab = s :=
    List.takeWhile_append_dropWhile
  unfold afterBullet
  split
  · rename_i c d t hdrop
    rw [hdrop] at hs
    split_ifs with hmark
    · simp only [Bool.and_eq_true, Bool.or_eq_true, beq_iff_eq, or_assoc] at hmark
      refine ⟨_, c :: d :: t.takeWhile isSpaceOrTab, hrun s,
        .inr ⟨c, d :: t.takeWhile isSpaceOrTab, by simpa using hmark.1, List.cons_ne_nil _ _,
          List.forall_mem_cons.2 ⟨hmark.2, hrun t⟩, rfl⟩, ?_⟩
      rw [List.append_assoc, List.cons_append, List.cons_append,
        List.takeWhile_append_dropWhile, hs]
    · exact ⟨_, [], hrun s, .inl rfl, by rw [List.append_nil, hs]⟩
  · exact ⟨_, [], hrun s, .inl rfl, by rw [List.append_nil, hs]⟩

/-- The stars of a label are no bullet, since the second one is no blank. -/
theorem afterBullet_append {indent bullet : List Char}
    (hindent : ∀ c ∈ indent, isSpaceOrTab c = true)
    (hbullet : IsBullet bullet) (t : List Char) :
    afterBullet (indent ++ bullet ++ '*' :: '*' :: t) = '*' :: '*' :: t := by
  have hstars : ('*' :: '*' :: t).dropWhile isSpaceOrTab = '*' :: '*' :: t :=
    List.dropWhile_cons_of_neg (by decide)
  rw [afterBullet, List.append_assoc, List.dropWhile_append_of_pos hindent]
  obtain rfl | ⟨mark, blanks, hmark, hne, hblanks, rfl⟩ := hbullet
  · rw [List.nil_append, hstars]
    rfl
  · obtain ⟨d, blanks, rfl⟩ := List.exists_cons_of_ne_nil hne
    obtain ⟨hd, hblanks⟩ := List.forall_mem_cons.1 hblanks
    have hnot : ∀ mark ∈ ['-', '*', '+'], isSpaceOrTab mark = false := by decide
    have hbullet : ∀ mark ∈ ['-', '*', '+'],
        (mark == '-' || mark == '*' || mark == '+') = true := by decide
    rw [List.cons_append, List.dropWhile_cons_of_neg (by simp [hnot mark hmark]), List.cons_append]
    simp only [hbullet mark hmark, hd, Bool.and_self, if_true]
    rw [List.dropWhile_append_of_pos hblanks, hstars]

/-- A label is read on the lines of its form. -/
theorem labelled?_eq_some_iff : labelled? label s = some value ↔
    ∃ rest, IsLabelLine label s rest ∧ value = strip isSpaceOrTab (restOfLine rest) := by
  have hread : labelled? label s = (afterText (bold label) (afterBullet s)).map fun rest =>
      strip isSpaceOrTab (restOfLine rest) := rfl
  rw [hread, Option.map_eq_some_iff]
  constructor
  · rintro ⟨rest, hrest, rfl⟩
    obtain ⟨indent, bullet, hindent, hbullet, hs⟩ := exists_eq_append_afterBullet s
    rw [afterText_eq_some_iff.1 hrest, ← List.append_assoc] at hs
    exact ⟨rest, ⟨indent, bullet, hindent, hbullet, hs⟩, rfl⟩
  · rintro ⟨rest, ⟨indent, bullet, hindent, hbullet, rfl⟩, rfl⟩
    refine ⟨rest, ?_, rfl⟩
    rw [List.append_assoc, afterText_eq_some_iff]
    exact afterBullet_append hindent hbullet _

/-! ## Reading line by line -/

theorem newline_not_mem_bullet (h : IsBullet s) : '\n' ∉ s := by
  obtain rfl | ⟨mark, blanks, hmark, -, hblanks, rfl⟩ := h
  · exact List.not_mem_nil
  · rw [List.mem_cons, not_or]
    refine ⟨?_, fun hmem => absurd (hblanks '\n' hmem) (by decide)⟩
    rintro rfl
    exact absurd hmark (by decide)

theorem newline_not_mem_opening {indent bullet : List Char} (h : '\n' ∉ label)
    (hindent : ∀ c ∈ indent, isSpaceOrTab c = true) (hbullet : IsBullet bullet) :
    '\n' ∉ indent ++ bullet ++ bold label := by
  have hblank : '\n' ∉ indent := fun hmem => absurd (hindent '\n' hmem) (by decide)
  simp [hblank, newline_not_mem_bullet hbullet, bold, h]

/-- A label is on a line of a text if the text from that line on has its form. -/
theorem isLabelLine_restOfLine_iff (h : '\n' ∉ label) : IsLabelLine label (restOfLine s) rest ↔
    ∃ rest', IsLabelLine label s rest' ∧ restOfLine rest' = rest := by
  constructor
  · rintro ⟨indent, bullet, hindent, hbullet, hline⟩
    obtain ⟨tail, hs⟩ : ∃ tail, restOfLine s ++ tail = s := List.takeWhile_prefix _
    rw [hline, List.append_assoc] at hs
    refine ⟨rest ++ tail, ⟨indent, bullet, hindent, hbullet, hs.symm⟩, ?_⟩
    rw [← hs, restOfLine,
      before_append_of_not_mem (newline_not_mem_opening h hindent hbullet)] at hline
    exact List.append_cancel_left hline
  · rintro ⟨rest', ⟨indent, bullet, hindent, hbullet, rfl⟩, rfl⟩
    refine ⟨indent, bullet, hindent, hbullet, ?_⟩
    exact before_append_of_not_mem (newline_not_mem_opening h hindent hbullet) rest'

theorem restOfLine_restOfLine (s : List Char) : restOfLine (restOfLine s) = restOfLine s :=
  before_of_not_mem fun hmem => by simpa using List.mem_takeWhile_imp hmem

theorem labelled?_restOfLine (h : '\n' ∉ label) (s : List Char) :
    labelled? label (restOfLine s) = labelled? label s := by
  refine Option.ext fun value => ?_
  rw [labelled?_eq_some_iff, labelled?_eq_some_iff]
  simp only [isLabelLine_restOfLine_iff h]
  constructor
  · rintro ⟨_, ⟨rest, hline, rfl⟩, rfl⟩
    exact ⟨rest, hline, by rw [restOfLine_restOfLine]⟩
  · rintro ⟨rest, hline, rfl⟩
    exact ⟨_, ⟨rest, hline, rfl⟩, by rw [restOfLine_restOfLine]⟩

theorem map_restOfLine_lineStarts (s : List Char) :
    (lineStarts s).map restOfLine = newlineLines s := by
  induction s with
  | nil => rfl
  | cons c s ih =>
    rw [newlineLines] at ih ⊢
    by_cases hc : c = '\n'
    · have hstarts : lineStarts ('\n' :: s) = ('\n' :: s) :: lineStarts s := by
        simp [lineStarts, lineStartsAfter]
      rw [hc, hstarts, List.map_cons, ih]
      simp [splitOn, restOfLine, before]
    · rw [splitOn_cons_of_ne hc, ← ih]
      simp [lineStarts, lineStartsAfter, restOfLine, before, hc]

/-- The lines of a label are looked for among the lines between newlines. -/
theorem findSome?_lineStarts (h : '\n' ∉ label) (s : List Char) :
    (lineStarts s).findSome? (labelled? label) = (newlineLines s).findSome? (labelled? label) := by
  rw [← map_restOfLine_lineStarts, List.findSome?_map]
  exact congrArg (List.findSome? · _) (funext fun s => (labelled?_restOfLine h s).symm)

/-! ## Values of labels -/

theorem labelled?_eq_none_iff :
    labelled? label s = none ↔ ∀ rest, ¬IsLabelLine label s rest := by
  rw [Option.eq_none_iff_forall_ne_some]
  constructor
  · exact fun hnone rest hline => hnone _ (labelled?_eq_some_iff.2 ⟨rest, hline, rfl⟩)
  · intro hnone value hvalue
    obtain ⟨rest, hline, -⟩ := labelled?_eq_some_iff.1 hvalue
    exact hnone rest hline

theorem labelled?_eq_some_iff_of_not_mem (h : '\n' ∉ line) : labelled? label line = some value ↔
    ∃ rest, IsLabelLine label line rest ∧ value = strip isSpaceOrTab rest := by
  rw [labelled?_eq_some_iff]
  refine exists_congr fun rest => and_congr_right fun hline => ?_
  obtain ⟨indent, bullet, -, -, rfl⟩ := hline
  have hrest : restOfLine rest = rest :=
    before_of_not_mem fun hmem => h (List.mem_append_right _ hmem)
  rw [hrest]

/-- What is found among lines is the text behind the label on its first line. -/
theorem findSome?_labelled?_eq_some_iff (h : ∀ line ∈ lines, '\n' ∉ line) :
    lines.findSome? (labelled? label) = some value ↔
      ∃ rest, IsFirstLabelLine label lines rest ∧ value = strip isSpaceOrTab rest := by
  rw [List.findSome?_eq_some_iff]
  simp only [labelled?_eq_none_iff]
  constructor
  · rintro ⟨before, line, after, rfl, hvalue, hbefore⟩
    obtain ⟨rest, hline, rfl⟩ := (labelled?_eq_some_iff_of_not_mem (h line (by simp))).1 hvalue
    exact ⟨rest, ⟨before, line, after, rfl, hbefore, hline⟩, rfl⟩
  · rintro ⟨rest, ⟨before, line, after, rfl, hbefore, hline⟩, rfl⟩
    exact ⟨before, line, after, rfl,
      (labelled?_eq_some_iff_of_not_mem (h line (by simp))).2 ⟨rest, hline, rfl⟩, hbefore⟩

/-- The first line of a label tells what is behind it. -/
theorem IsFirstLabelLine.strip_eq {rest' : List Char} (hlines : ∀ line ∈ lines, '\n' ∉ line)
    (h : IsFirstLabelLine label lines rest) (h' : IsFirstLabelLine label lines rest') :
    strip isSpaceOrTab rest = strip isSpaceOrTab rest' := by
  have hfind := (findSome?_labelled?_eq_some_iff hlines).2 ⟨rest, h, rfl⟩
  rw [(findSome?_labelled?_eq_some_iff hlines).2 ⟨rest', h', rfl⟩] at hfind
  exact (Option.some.inj hfind).symm

theorem hasValue_iff_of_absent (h : ∀ line ∈ lines, ∀ rest, ¬IsLabelLine label line rest)
    {found : Option String} : HasValue label lines found ↔ found = none := by
  constructor
  · rintro (_ | _ | ⟨⟨before, line, after, rfl, -, hline⟩, -, -⟩)
    · rfl
    · rfl
    · exact absurd hline (h line (by simp) _)
  · rintro rfl
    exact .absent h

theorem hasValue_iff_of_first (hlines : ∀ line ∈ lines, '\n' ∉ line)
    (h : IsFirstLabelLine label lines rest) {found : Option String} : HasValue label lines found ↔
      found = if strip isSpaceOrTab rest = [] then none
        else some (String.ofList (strip isSpaceOrTab rest)) := by
  constructor
  · rintro (habsent | ⟨h', hblank⟩ | ⟨h', hne, hstripped⟩)
    · obtain ⟨before, line, after, rfl, -, hline⟩ := h
      exact absurd hline (habsent line (by simp) rest)
    · rw [h.strip_eq hlines h', if_pos (strip_eq_nil_iff.2 hblank)]
    · rw [h.strip_eq hlines h', ← hstripped.eq_strip, if_neg hne]
  · rintro rfl
    split_ifs with hempty
    · exact .blank h (strip_eq_nil_iff.1 hempty)
    · exact .given h hempty (isStripped_strip _ rest)

/-- What stands behind a label on its first line is its value. -/
theorem label?_of_first {name value : String} (h : '\n' ∉ name.toList)
    (hfirst : IsFirstLabelLine name.toList (newlineLines text.toList) rest) (hne : value ≠ "")
    (hstripped : IsStripped isSpaceOrTab rest value.toList) : label? name text = some value := by
  have hlines : ∀ line ∈ newlineLines text.toList, '\n' ∉ line :=
    fun _ => not_mem_of_mem_splitOn
  have hfind := (findSome?_labelled?_eq_some_iff hlines).2 ⟨rest, hfirst, hstripped.eq_strip⟩
  obtain ⟨c, chars, hvalue⟩ :=
    List.exists_cons_of_ne_nil (show value.toList ≠ [] by simpa using hne)
  rw [label?, findSome?_lineStarts h, hfind, hvalue]
  exact congrArg some (String.toList_injective (by rw [String.toList_ofList, hvalue]))

/-- The value of a label is that of its first line. -/
theorem label?_eq_iff {name : String} (h : '\n' ∉ name.toList) {found : Option String} :
    label? name text = found ↔ HasValue name.toList (newlineLines text.toList) found := by
  have hlines : ∀ line ∈ newlineLines text.toList, '\n' ∉ line :=
    fun _ => not_mem_of_mem_splitOn
  rw [label?, findSome?_lineStarts h]
  cases hfind : (newlineLines text.toList).findSome? (labelled? name.toList) with
  | none =>
    rw [hasValue_iff_of_absent fun line hline =>
      labelled?_eq_none_iff.1 (List.findSome?_eq_none_iff.1 hfind line hline)]
    exact eq_comm
  | some value =>
    obtain ⟨rest, hfirst, rfl⟩ := (findSome?_labelled?_eq_some_iff hlines).1 hfind
    rw [hasValue_iff_of_first hlines hfirst]
    cases strip isSpaceOrTab rest with
    | nil => exact eq_comm
    | cons c value => exact eq_comm

/-- The first line of a label counts, with any bullet, blanks and characters in the label; if it has
no value, a later line does not give one. -/
theorem label?_eq_iff_later : '\n' ∉ "a.b*|".toList ∧
    HasValue "a.b*|".toList
      (newlineLines "x\n \t* \t**a.b*|:**\t v  w \n**a.b*|:** z\n".toList) (some "v  w") ∧
    HasValue "a.b*|".toList (newlineLines "**a.b*|:** \n**a.b*|:** z\n".toList) none := by
  have hname : '\n' ∉ "a.b*|".toList := by decide
  exact ⟨hname, (label?_eq_iff hname).1 (by decide +kernel),
    (label?_eq_iff hname).1 (by decide +kernel)⟩

end DocAudit.Markdown
