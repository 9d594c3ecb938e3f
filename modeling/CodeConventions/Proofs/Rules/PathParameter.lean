import CodeConventions.Proofs.Rules.RoutePath
import CodeConventions.Proofs.Text.Joined

/-!
# The parameters of a path

A path is cut into segments at its slashes.  What a parameter is, is said here without any search:
a dollar sign and a name in braces, in a segment, or a whole segment that begins with a dollar sign.
A name in braces goes up to the first closing brace, so two such parameters that overlap end at the
same brace (`IsToken.stop_eq`), and the longest of them counts.

The search for invalid parameters returns the parameters whose name is neither empty nor an
identifier (`invalidIn_exact`).  A line feed after an identifier goes unnoticed.

## Strategy

The search goes through a segment from left to right and goes on after each parameter that it finds.
No parameter leads across the offset that it has reached (`IsClear`), so what remains to be found is
what begins there or later.
-/

namespace CodeConventions

/-! ## The first occurrence of a character -/

section Split

variable {c : Char} {front back front' back' : List Char}

/-- Where a text is split at a character, the first occurrence of it is the same one or an earlier
one. -/
theorem split_at_first (hfront : c ∉ front) (h : front ++ c :: back = front' ++ c :: back') :
    (front' = front ∧ back' = back) ∨
      ∃ middle, front' = front ++ c :: middle ∧ back = middle ++ c :: back' := by
  rcases List.append_eq_append_iff.mp h with ⟨gap, hfront', hgap⟩ | ⟨gap, hfrontgap, hgap⟩
  · cases gap with
    | nil =>
      obtain rfl := (List.cons.inj hgap).2
      exact Or.inl ⟨by rw [hfront', List.append_nil], rfl⟩
    | cons g gap =>
      obtain ⟨rfl, hback⟩ := List.cons.inj hgap
      exact Or.inr ⟨gap, hfront', hback⟩
  · cases gap with
    | nil =>
      obtain rfl := (List.cons.inj hgap).2
      exact Or.inl ⟨by rw [hfrontgap, List.append_nil], rfl⟩
    | cons g gap =>
      obtain ⟨rfl, _⟩ := List.cons.inj hgap
      exact absurd (hfrontgap ▸ List.mem_append_right front' (List.mem_cons_self ..)) hfront

theorem split_at_first_unique (hfront : c ∉ front) (hfront' : c ∉ front')
    (h : front ++ c :: back = front' ++ c :: back') : front' = front ∧ back' = back := by
  rcases split_at_first hfront h with heq | ⟨middle, hlater, _⟩
  · exact heq
  · exact absurd (hlater ▸ List.mem_append_right front (List.mem_cons_self ..)) hfront'

/-- The characters up to the first occurrence of another one. -/
theorem takeWhile_ne_iff {cs : List Char} :
    (cs.takeWhile (· != c) = front ∧ front.length < cs.length) ↔
      c ∉ front ∧ ∃ back, cs = front ++ c :: back := by
  constructor
  · rintro ⟨rfl, hlength⟩
    have hnot : c ∉ cs.takeWhile (· != c) := fun hc => by
      simpa using List.mem_takeWhile_imp hc
    refine ⟨hnot, ?_⟩
    have hsplit := List.takeWhile_append_dropWhile (p := (· != c)) (l := cs)
    cases hrest : cs.dropWhile (· != c) with
    | nil =>
      rw [hrest, List.append_nil] at hsplit
      rw [hsplit] at hlength
      exact absurd hlength (Nat.lt_irrefl _)
    | cons x rest =>
      have hx : x = c := by
        have hhead := List.head?_dropWhile_not (· != c) cs
        simpa [hrest] using hhead
      rw [hrest, hx] at hsplit
      exact ⟨rest, hsplit.symm⟩
  · rintro ⟨hfront, back, rfl⟩
    have hall : ∀ x ∈ front, (x != c) = true := fun x hx => by
      simpa using fun heq : x = c => hfront (heq ▸ hx)
    refine ⟨?_, by simp⟩
    rw [List.takeWhile_append_of_pos hall, List.takeWhile_cons_of_neg (by simp), List.append_nil]

end Split

namespace PathParameter

/-! ## What a parameter is -/

/-- A stretch of the path between slashes or the ends of the path. -/
structure IsSegment (path before segment after : List Char) : Prop where
  split : path = before ++ (segment ++ after)
  clear : '/' ∉ segment
  opens : before = [] ∨ ∃ front, before = front ++ ['/']
  closes : after = [] ∨ ∃ back, after = '/' :: back

/-- The text is a parameter in braces with the name. -/
inductive IsBraced (name : List Char) : List Char → Prop
  | required (h : '\x7d' ∉ name) : IsBraced name ('\x7b' :: '$' :: (name ++ ['\x7d']))
  | optional (h : '\x7d' ∉ name) : IsBraced name ('\x7b' :: '-' :: '$' :: (name ++ ['\x7d']))

/-- A parameter in braces with the name stands between two offsets in the text. -/
def IsToken (cs : List Char) (start stop : Nat) (name : List Char) : Prop :=
  ∃ text rest, cs.drop start = text ++ rest ∧ IsBraced name text ∧ stop = start + text.length

/-- The parameter in braces is the longest of those that end at its closing brace. -/
def IsOutermost (cs : List Char) (start stop : Nat) (name : List Char) : Prop :=
  IsToken cs start stop name ∧ ∀ earlier < start, ∀ other, ¬ IsToken cs earlier stop other

/-- A parameter of a path is one in braces in a segment, or a whole segment that begins with a
dollar sign and in which nothing is in braces. -/
inductive IsParameter (path : List Char) : PathParameter → Prop
  | braced {before segment after name : List Char} {start stop : Nat}
      (hsegment : IsSegment path before segment after)
      (htoken : IsOutermost segment start stop name) :
      IsParameter path ⟨String.ofList name, before.length + start, before.length + stop⟩
  | whole {before segment after name : List Char}
      (hsegment : IsSegment path before segment after) (hdollar : segment = '$' :: name)
      (hname : name ≠ []) (hnone : ∀ start stop other, ¬ IsToken segment start stop other) :
      IsParameter path ⟨String.ofList name, before.length, before.length + segment.length⟩

/-- A letter or an underscore. -/
def Begins (c : Char) : Prop := ('a' ≤ c ∧ c ≤ 'z') ∨ ('A' ≤ c ∧ c ≤ 'Z') ∨ c = '_'

/-- A letter or an underscore, and after it letters, digits and underscores only. -/
def IsIdentifier (cs : List Char) : Prop :=
  ∃ c rest, cs = c :: rest ∧ Begins c ∧ ∀ x ∈ rest, Begins x ∨ ('0' ≤ x ∧ x ≤ '9')

/-- The characters between two offsets. -/
def charsBetween (cs : List Char) (start stop : Nat) : List Char := (cs.take stop).drop start

/-- The text is the parameter with the name, in braces or as a whole segment. -/
def IsWritten (name text : List Char) : Prop := IsBraced name text ∨ text = '$' :: name

variable {p : PathParameter} {path cs name other text before segment after : List Char}
  {start start' stop stop' offset i n : Nat}

/-! ## Names -/

theorem beginsIdentifier_iff {c : Char} : beginsIdentifier c = true ↔ Begins c := by
  simp [beginsIdentifier, Begins, Text.isLatinLetter, Text.isLatinLower, Text.isLatinUpper,
    or_assoc]

theorem isIdentifier_iff_dropFinalLineFeed {s : String} :
    isIdentifier s = true ↔ IsIdentifier (Text.dropFinalLineFeed s).toList := by
  rw [isIdentifier]
  cases (Text.dropFinalLineFeed s).toList with
  | nil => simp [IsIdentifier]
  | cons c rest =>
    simp only [Bool.and_eq_true, List.all_eq_true, Bool.or_eq_true, beginsIdentifier_iff,
      Digits.isDecimal, decide_eq_true_eq]
    constructor
    · rintro ⟨hc, hrest⟩
      exact ⟨c, rest, rfl, hc, hrest⟩
    · rintro ⟨c, rest, heq, hc, hrest⟩
      obtain ⟨rfl, rfl⟩ := List.cons.inj heq
      exact ⟨hc, hrest⟩

/-- No identifier ends with a line feed. -/
theorem not_isIdentifier_lineFeed (front : List Char) : ¬ IsIdentifier (front ++ ['\n']) := by
  rintro ⟨c, rest, heq, hc, hrest⟩
  have hfeed : ¬ (Begins '\n' ∨ ('0' ≤ '\n' ∧ '\n' ≤ '9')) := by
    simp only [Begins]
    decide
  have hmem : '\n' ∈ c :: rest := heq ▸ List.mem_append_right front (List.mem_singleton.mpr rfl)
  rcases List.mem_cons.mp hmem with rfl | hmem
  · exact hfeed (Or.inl hc)
  · exact hfeed (hrest _ hmem)

theorem dropFinalLineFeed_cases (s : String) :
    (∃ front, s.toList = front ++ ['\n'] ∧ Text.dropFinalLineFeed s = String.ofList front) ∨
      (∀ front, s.toList ≠ front ++ ['\n']) ∧ Text.dropFinalLineFeed s = s := by
  unfold Text.dropFinalLineFeed
  split
  next rest hreverse =>
    refine Or.inl ⟨rest.reverse, ?_, rfl⟩
    rw [← List.reverse_reverse s.toList, hreverse, List.reverse_cons]
  next hnone =>
    refine Or.inr ⟨fun front heq => ?_, rfl⟩
    exact hnone front.reverse (by rw [heq, List.reverse_append]; rfl)

/-- A name passes if it is an identifier, and also if a line feed comes after the identifier. -/
theorem isIdentifier_iff {s : String} :
    isIdentifier s = true ↔
      IsIdentifier s.toList ∨ ∃ front, s.toList = front ++ ['\n'] ∧ IsIdentifier front := by
  rw [isIdentifier_iff_dropFinalLineFeed]
  rcases dropFinalLineFeed_cases s with ⟨front, hs, hdrop⟩ | ⟨hnone, hdrop⟩
  · rw [hdrop, String.toList_ofList]
    constructor
    · intro h
      exact Or.inr ⟨front, hs, h⟩
    · rintro (h | ⟨front', hs', h⟩)
      · exact absurd (hs ▸ h) (not_isIdentifier_lineFeed front)
      · rwa [List.append_cancel_right (hs.symm.trans hs')]
  · rw [hdrop]
    refine ⟨Or.inl, ?_⟩
    rintro (h | ⟨front, hs, _⟩)
    · exact h
    · exact absurd hs (hnone front)

/-! ## Parameters in braces -/

/-- A parameter in braces ends with its first closing brace. -/
theorem IsBraced.eq_append (h : IsBraced name text) :
    ∃ front, text = front ++ ['\x7d'] ∧ '\x7d' ∉ front := by
  cases h with
  | required hname => exact ⟨'\x7b' :: '$' :: name, rfl, by simpa using hname⟩
  | optional hname => exact ⟨'\x7b' :: '-' :: '$' :: name, rfl, by simpa using hname⟩

/-- The text of a parameter in braces tells its name. -/
theorem IsBraced.name_eq {text' : List Char} (h : IsBraced name text) (h' : IsBraced other text')
    (htext : text = text') : name = other := by
  cases h with
  | required _ =>
    cases h' with
    | required _ => exact List.append_cancel_right (List.cons.inj (List.cons.inj htext).2).2
    | optional _ => exact absurd (List.cons.inj (List.cons.inj htext).2).1 (by decide)
  | optional _ =>
    cases h' with
    | required _ => exact absurd (List.cons.inj (List.cons.inj htext).2).1 (by decide)
    | optional _ =>
      exact List.append_cancel_right (List.cons.inj (List.cons.inj (List.cons.inj htext).2).2).2

/-- A parameter in braces takes up some characters. -/
theorem IsToken.start_lt (h : IsToken cs start stop name) : start < stop := by
  obtain ⟨text, rest, _, htext, rfl⟩ := h
  obtain ⟨front, rfl, _⟩ := htext.eq_append
  rw [List.length_append, List.length_singleton]
  omega

/-- Of two parameters in braces the one that begins inside the other ends with it. -/
theorem IsToken.stop_eq (h : IsToken cs start stop name) (h' : IsToken cs start' stop' other)
    (hle : start ≤ start') (hlt : start' < stop) : stop' = stop := by
  obtain ⟨text, rest, hdrop, htext, rfl⟩ := h
  obtain ⟨text', rest', hdrop', htext', rfl⟩ := h'
  obtain ⟨front, rfl, hfront⟩ := htext.eq_append
  obtain ⟨front', rfl, hfront'⟩ := htext'.eq_append
  simp only [List.length_append, List.length_singleton] at hlt ⊢
  obtain ⟨gap, rfl⟩ := Nat.exists_eq_add_of_le hle
  have hgap : gap ≤ front.length := by omega
  -- both end with the first closing brace after the place where the inner one begins
  have hinner : front.drop gap ++ '\x7d' :: rest = front' ++ '\x7d' :: rest' := by
    calc front.drop gap ++ '\x7d' :: rest
        = (front ++ ['\x7d'] ++ rest).drop gap := by
          rw [List.append_assoc, List.drop_append_of_le_length hgap]
          rfl
      _ = cs.drop (start + gap) := by rw [← hdrop, List.drop_drop]
      _ = front' ++ '\x7d' :: rest' := by
          rw [hdrop', List.append_assoc]
          rfl
  have hclear : '\x7d' ∉ front.drop gap := fun h => hfront (List.mem_of_mem_drop h)
  obtain ⟨rfl, _⟩ := split_at_first_unique hclear hfront' hinner
  rw [List.length_drop]
  omega

/-- Two parameters in braces that begin at one place are the same. -/
theorem IsToken.name_eq (h : IsToken cs start stop name) (h' : IsToken cs start stop' other) :
    stop' = stop ∧ name = other := by
  have hstop := h.stop_eq h' (Nat.le_refl start) h.start_lt
  refine ⟨hstop, ?_⟩
  obtain ⟨text, rest, hdrop, htext, rfl⟩ := h
  obtain ⟨text', rest', hdrop', htext', rfl⟩ := h'
  exact htext.name_eq htext' (List.append_inj_left (hdrop.symm.trans hdrop') (by omega))

/-- What a parameter in braces is begun with, its name, and the closing brace. -/
theorem closes_iff {taken : Nat} :
    (if (cs.takeWhile (· != '\x7d')).length < cs.length then
        some (cs.takeWhile (· != '\x7d'), taken + (cs.takeWhile (· != '\x7d')).length + 1)
      else none) = some (name, n) ↔
      '\x7d' ∉ name ∧ n = taken + name.length + 1 ∧ ∃ back, cs = name ++ '\x7d' :: back := by
  constructor
  · intro h
    split_ifs at h with hlength
    obtain ⟨rfl, rfl⟩ := Prod.mk.inj (Option.some_inj.mp h)
    obtain ⟨hname, hback⟩ := takeWhile_ne_iff.mp ⟨rfl, hlength⟩
    exact ⟨hname, rfl, hback⟩
  · rintro ⟨hname, rfl, hback⟩
    obtain ⟨htake, hlength⟩ := takeWhile_ne_iff.mpr ⟨hname, hback⟩
    rw [htake, if_pos hlength]

/-- A parameter in braces is found where it stands. -/
theorem braced?_eq_some_iff :
    braced? cs = some (name, n) ↔
      ∃ text rest, cs = text ++ rest ∧ IsBraced name text ∧ n = text.length := by
  constructor
  · intro h
    unfold braced? at h
    dsimp only at h
    split at h
    next rest =>
      obtain ⟨hname, rfl, back, rfl⟩ := closes_iff.mp h
      refine ⟨_, back, ?_, .optional hname, ?_⟩
      · simp
      · simp
        omega
    next rest _ =>
      obtain ⟨hname, rfl, back, rfl⟩ := closes_iff.mp h
      refine ⟨_, back, ?_, .required hname, ?_⟩
      · simp
      · simp
        omega
    next => cases h
  · rintro ⟨text, rest, rfl, htext, rfl⟩
    cases htext with
    | required hname =>
      refine closes_iff.mpr ⟨hname, ?_, rest, List.append_assoc ..⟩
      rw [List.length_cons, List.length_cons, List.length_append, List.length_singleton]
      omega
    | optional hname =>
      refine closes_iff.mpr ⟨hname, ?_, rest, List.append_assoc ..⟩
      rw [List.length_cons, List.length_cons, List.length_cons, List.length_append,
        List.length_singleton]
      omega

/-! ## The search in a segment -/

/-- No parameter in braces leads across the offset. -/
def IsClear (cs : List Char) (i : Nat) : Prop :=
  ∀ start stop name, IsToken cs start stop name → start < i → stop ≤ i

theorem isClear_zero : IsClear cs 0 := fun _ _ _ _ h => absurd h (Nat.not_lt_zero _)

/-- Nothing leads across the end of a parameter in braces. -/
theorem IsClear.of_token (hclear : IsClear cs i) (h : IsToken cs i stop name) :
    IsClear cs stop := by
  intro start' stop' other h' hlt
  rcases Nat.lt_or_ge start' i with hbefore | hinside
  · exact (hclear start' stop' other h' hbefore).trans h.start_lt.le
  · exact (h.stop_eq h' hinside hlt).le

theorem IsClear.succ (hclear : IsClear cs i) (hnone : ∀ stop name, ¬ IsToken cs i stop name) :
    IsClear cs (i + 1) := by
  intro start' stop' other h' hlt
  rcases Nat.lt_or_eq_of_le (Nat.le_of_lt_succ hlt) with hbefore | rfl
  · exact (hclear start' stop' other h' hbefore).trans (Nat.le_succ i)
  · exact absurd h' (hnone stop' other)

/-- Where nothing leads across, a parameter in braces is the longest one up to its end. -/
theorem IsClear.isOutermost (hclear : IsClear cs i) (h : IsToken cs i stop name) :
    IsOutermost cs i stop name := by
  refine ⟨h, fun earlier hearlier other h' => ?_⟩
  have hstop := hclear earlier stop other h' hearlier
  exact absurd h.start_lt (Nat.not_lt.mpr hstop)

/-- Skipping characters is the same as beginning after them. -/
theorem bracedFrom_skip (offset n : Nat) (cs : List Char) :
    bracedFrom offset n cs = bracedFrom (offset + n) 0 (cs.drop n) := by
  induction cs generalizing offset n with
  | nil => rw [List.drop_nil, bracedFrom, bracedFrom]
  | cons c cs ih =>
    cases n with
    | zero => rfl
    | succ n => rw [bracedFrom, ih, List.drop_succ_cons, Nat.add_assoc, Nat.add_comm 1 n]

/-- The search finds a parameter in braces where there is one. -/
theorem braced?_drop_eq_some_iff :
    braced? (cs.drop i) = some (name, n) ↔ IsToken cs i (i + n) name := by
  simp only [braced?_eq_some_iff, IsToken, Nat.add_left_cancel_iff]

/-- A parameter in braces is found, and the search goes on after it. -/
theorem IsToken.bracedFrom_eq (h : IsToken cs i stop name) (offset : Nat) :
    bracedFrom (offset + i) 0 (cs.drop i) =
      ⟨String.ofList name, offset + i, offset + stop⟩ ::
        bracedFrom (offset + stop) 0 (cs.drop stop) := by
  have hlt := h.start_lt
  obtain ⟨n, rfl⟩ := Nat.exists_eq_add_of_lt hlt
  have hfound : braced? (cs.drop i) = some (name, n + 1) := braced?_drop_eq_some_iff.mpr h
  cases hdrop : cs.drop i with
  | nil =>
    obtain ⟨text, rest, htext, hbraced, _⟩ := h
    obtain ⟨front, rfl, _⟩ := hbraced.eq_append
    simp [hdrop] at htext
  | cons c rest =>
    have hrest : rest = cs.drop (i + 1) := by
      rw [← List.drop_drop, hdrop, List.drop_one]
      rfl
    have hoffset : offset + i + 1 + n = offset + (i + n + 1) := by omega
    have hstop : offset + i + (n + 1) = offset + (i + n + 1) := by omega
    have hplace : i + 1 + n = i + n + 1 := by omega
    rw [hdrop] at hfound
    rw [bracedFrom, hfound]
    dsimp only
    rw [Nat.add_sub_cancel, bracedFrom_skip, hrest, List.drop_drop, hoffset, hplace, hstop]

/-- Where no parameter in braces begins, the search goes on with the next character. -/
theorem bracedFrom_eq_of_not_isToken (hi : i < cs.length)
    (hnone : ∀ stop name, ¬ IsToken cs i stop name) (offset : Nat) :
    bracedFrom (offset + i) 0 (cs.drop i) = bracedFrom (offset + (i + 1)) 0 (cs.drop (i + 1)) := by
  have hmissed : braced? (cs.drop i) = none := by
    rw [Option.eq_none_iff_forall_ne_some]
    rintro ⟨name, n⟩ hfound
    exact hnone _ name (braced?_drop_eq_some_iff.mp hfound)
  rw [List.drop_eq_getElem_cons hi] at hmissed ⊢
  rw [bracedFrom, hmissed]
  rfl

/-- Where nothing leads across, the search goes on with the longest parameters in braces that begin
there or later. -/
theorem IsClear.mem_bracedFrom_iff (hclear : IsClear cs i) :
    p ∈ bracedFrom (offset + i) 0 (cs.drop i) ↔
      ∃ start stop name, i ≤ start ∧ IsOutermost cs start stop name ∧
        p = ⟨String.ofList name, offset + start, offset + stop⟩ := by
  induction hleft : cs.length - i using Nat.strong_induction_on generalizing i with
  | _ left ih =>
    rcases Nat.lt_or_ge i cs.length with hi | hi
    · by_cases hfound : ∃ stop name, IsToken cs i stop name
      · obtain ⟨stop, name, htoken⟩ := hfound
        have hlt := htoken.start_lt
        rw [htoken.bracedFrom_eq, List.mem_cons, ih _ (by omega) (hclear.of_token htoken) rfl]
        constructor
        · rintro (rfl | ⟨start, stop', other, hle, houtermost, rfl⟩)
          · exact ⟨i, stop, name, Nat.le_refl i, hclear.isOutermost htoken, rfl⟩
          · exact ⟨start, stop', other, hlt.le.trans hle, houtermost, rfl⟩
        · rintro ⟨start, stop', other, hle, houtermost, rfl⟩
          rcases Nat.lt_or_ge start stop with hinside | hbehind
          · -- what begins inside the parameter found ends with it, and is not the longest one
            obtain rfl := htoken.stop_eq houtermost.1 hle hinside
            obtain rfl : i = start := by
              by_contra hne
              exact houtermost.2 i (Nat.lt_of_le_of_ne hle hne) name htoken
            obtain ⟨_, rfl⟩ := htoken.name_eq houtermost.1
            exact Or.inl rfl
          · exact Or.inr ⟨start, stop', other, hbehind, houtermost, rfl⟩
      · have hnone : ∀ stop name, ¬ IsToken cs i stop name := fun stop name h =>
          hfound ⟨stop, name, h⟩
        rw [bracedFrom_eq_of_not_isToken hi hnone, ih _ (by omega) (hclear.succ hnone) rfl]
        refine exists_congr fun start => exists_congr fun stop => exists_congr fun name => ?_
        refine and_congr_left fun h => ⟨Nat.le_of_succ_le, fun hle => ?_⟩
        refine Nat.lt_of_le_of_ne hle ?_
        rintro rfl
        exact hnone stop name h.1.1
    · rw [List.drop_eq_nil_of_le hi, bracedFrom]
      refine ⟨fun h => absurd h List.not_mem_nil, ?_⟩
      rintro ⟨start, stop, name, hstart, ⟨⟨text, rest, htext, hbraced, _⟩, _⟩, _⟩
      obtain ⟨front, rfl, _⟩ := hbraced.eq_append
      rw [List.drop_eq_nil_of_le (hi.trans hstart)] at htext
      simp at htext

/-- The parameters in braces in a segment are the longest ones. -/
theorem mem_bracedFrom_iff :
    p ∈ bracedFrom offset 0 cs ↔
      ∃ start stop name, IsOutermost cs start stop name ∧
        p = ⟨String.ofList name, offset + start, offset + stop⟩ := by
  have h : p ∈ bracedFrom offset 0 (cs.drop 0) ↔ _ := isClear_zero.mem_bracedFrom_iff
  simpa using h

/-- If anything is in braces, something is found. -/
theorem bracedFrom_eq_nil_iff :
    bracedFrom offset 0 cs = [] ↔ ∀ start stop name, ¬ IsToken cs start stop name := by
  classical
  rw [List.eq_nil_iff_forall_not_mem]
  constructor
  · intro hnone start stop name h
    have hsome : ∃ start, ∃ name, IsToken cs start stop name := ⟨start, name, h⟩
    obtain ⟨first, hfirst⟩ := Nat.find_spec hsome
    refine hnone _ (mem_bracedFrom_iff.mpr ⟨Nat.find hsome, stop, first, ⟨hfirst, ?_⟩, rfl⟩)
    exact fun earlier hearlier other hother => Nat.find_min hsome hearlier ⟨other, hother⟩
  · intro hnone p hp
    obtain ⟨start, stop, name, h, _⟩ := mem_bracedFrom_iff.mp hp
    exact hnone start stop name h.1

/-! ## The parameters of a path -/

/-- What is found in a segment. -/
theorem mem_ofSegment_iff :
    p ∈ ofSegment offset cs ↔
      (∃ start stop name, IsOutermost cs start stop name ∧
        p = ⟨String.ofList name, offset + start, offset + stop⟩) ∨
      ∃ name, cs = '$' :: name ∧ name ≠ [] ∧ (∀ start stop other, ¬ IsToken cs start stop other) ∧
        p = ⟨String.ofList name, offset, offset + cs.length⟩ := by
  unfold ofSegment
  split
  next hnil =>
    have hnone := bracedFrom_eq_nil_iff.mp hnil
    have hbraced : ¬ ∃ start stop name, IsOutermost cs start stop name ∧
        p = ⟨String.ofList name, offset + start, offset + stop⟩ := by
      rintro ⟨start, stop, name, h, _⟩
      exact hnone start stop name h.1
    rw [or_iff_right hbraced]
    split
    next name =>
      cases name with
      | nil => simp
      | cons c name => simp [hnone]
    next hdollar =>
      refine ⟨fun h => absurd h List.not_mem_nil, ?_⟩
      rintro ⟨name, hname, _⟩
      exact absurd hname (hdollar name)
  next hsome =>
    rw [mem_bracedFrom_iff]
    refine ⟨Or.inl, ?_⟩
    rintro (h | ⟨_, _, _, hnone, _⟩)
    · exact h
    · exact absurd (bracedFrom_eq_nil_iff.mpr hnone) hsome

/-- A path without a slash is one segment. -/
theorem isSegment_of_not_mem (hpath : '/' ∉ path) :
    IsSegment path before segment after ↔ before = [] ∧ segment = path ∧ after = [] := by
  constructor
  · rintro ⟨rfl, _, hopens, hcloses⟩
    have hbefore : before = [] := by
      rcases hopens with hnil | ⟨front, rfl⟩
      · exact hnil
      · exact absurd (by simp) hpath
    have hafter : after = [] := by
      rcases hcloses with hnil | ⟨back, rfl⟩
      · exact hnil
      · exact absurd (by simp) hpath
    subst hbefore hafter
    simp
  · rintro ⟨rfl, rfl, rfl⟩
    exact ⟨by simp, hpath, Or.inl rfl, Or.inl rfl⟩

/-- The segments of a path are what stands before the first slash and the segments behind it. -/
theorem isSegment_append {front back : List Char} (hfront : '/' ∉ front) :
    IsSegment (front ++ '/' :: back) before segment after ↔
      (before = [] ∧ segment = front ∧ after = '/' :: back) ∨
        ∃ between, before = front ++ '/' :: between ∧ IsSegment back between segment after := by
  constructor
  · rintro ⟨hsplit, hclear, hopens, hcloses⟩
    rcases hopens with rfl | ⟨open_, rfl⟩
    · rcases hcloses with rfl | ⟨close, rfl⟩
      · rw [List.nil_append, List.append_nil] at hsplit
        exact absurd (hsplit ▸ List.mem_append_right front (List.mem_cons_self ..)) hclear
      · obtain ⟨rfl, rfl⟩ := split_at_first_unique hfront hclear hsplit
        exact Or.inl ⟨rfl, rfl, rfl⟩
    · rw [List.append_assoc, List.singleton_append] at hsplit
      rcases split_at_first hfront hsplit with ⟨rfl, hback⟩ | ⟨middle, rfl, hback⟩
      · exact Or.inr ⟨[], rfl, hback.symm, hclear, Or.inl rfl, hcloses⟩
      · refine Or.inr ⟨middle ++ ['/'], by simp, ?_, hclear, Or.inr ⟨middle, rfl⟩, hcloses⟩
        rw [hback, List.append_assoc, List.singleton_append]
  · rintro (⟨rfl, rfl, rfl⟩ | ⟨between, rfl, hsplit, hclear, hopens, hcloses⟩)
    · exact ⟨rfl, hfront, Or.inl rfl, Or.inr ⟨back, rfl⟩⟩
    · refine ⟨by simp [hsplit], hclear, Or.inr ?_, hcloses⟩
      rcases hopens with rfl | ⟨middle, rfl⟩
      · exact ⟨front, rfl⟩
      · exact ⟨front ++ '/' :: middle, by simp⟩

/-- Each segment is searched, with the offset at which it begins. -/
theorem mem_ofSegments_iff :
    p ∈ ofSegments offset (Text.splitAtChar '/' path) ↔
      ∃ before segment after, IsSegment path before segment after ∧
        p ∈ ofSegment (offset + before.length) segment := by
  induction hlength : path.length using Nat.strong_induction_on generalizing path offset with
  | _ length ih =>
    by_cases hslash : '/' ∈ path
    · obtain ⟨front, back, rfl, hfront⟩ := List.eq_append_cons_of_mem hslash
      have hshorter : back.length < length := by
        rw [← hlength, List.length_append, List.length_cons]
        omega
      have hoffset (between : List Char) : offset + (front ++ '/' :: between).length =
          offset + front.length + 1 + between.length := by
        rw [List.length_append, List.length_cons]
        omega
      rw [Text.splitAtChar_append hfront, ofSegments, List.mem_append, ih _ hshorter rfl]
      constructor
      · rintro (hp | ⟨between, segment, after, hsegment, hp⟩)
        · exact ⟨[], front, '/' :: back, (isSegment_append hfront).mpr (Or.inl ⟨rfl, rfl, rfl⟩), hp⟩
        · refine ⟨front ++ '/' :: between, segment, after,
            (isSegment_append hfront).mpr (Or.inr ⟨between, rfl, hsegment⟩), ?_⟩
          rwa [hoffset]
      · rintro ⟨before, segment, after, hsegment, hp⟩
        rcases (isSegment_append hfront).mp hsegment with ⟨rfl, rfl, rfl⟩ | ⟨between, rfl, hbehind⟩
        · exact Or.inl hp
        · refine Or.inr ⟨between, segment, after, hbehind, ?_⟩
          rwa [hoffset] at hp
    · rw [Text.splitAtChar_of_not_mem hslash, ofSegments, ofSegments, List.append_nil]
      constructor
      · intro hp
        exact ⟨[], path, [], (isSegment_of_not_mem hslash).mpr ⟨rfl, rfl, rfl⟩, hp⟩
      · rintro ⟨before, segment, after, hsegment, hp⟩
        obtain ⟨rfl, rfl, rfl⟩ := (isSegment_of_not_mem hslash).mp hsegment
        exact hp

theorem mem_inPath_iff {path : String} : p ∈ inPath path ↔ IsParameter path.toList p := by
  simp only [inPath, mem_ofSegments_iff, mem_ofSegment_iff, Nat.zero_add]
  constructor
  · rintro ⟨before, segment, after, hsegment, ⟨start, stop, name, htoken, rfl⟩ |
      ⟨name, hdollar, hname, hnone, rfl⟩⟩
    · exact .braced hsegment htoken
    · exact .whole hsegment hdollar hname hnone
  · intro h
    cases h with
    | @braced before segment after name start stop hsegment htoken =>
      exact ⟨before, segment, after, hsegment, Or.inl ⟨start, stop, name, htoken, rfl⟩⟩
    | @whole before segment after name hsegment hdollar hname hnone =>
      exact ⟨before, segment, after, hsegment, Or.inr ⟨name, hdollar, hname, hnone, rfl⟩⟩

theorem charsBetween_append (front text back : List Char) :
    charsBetween (front ++ (text ++ back)) front.length (front.length + text.length) = text := by
  rw [charsBetween, ← List.append_assoc, ← List.length_append, List.take_left, List.drop_left]

/-- A parameter is written where its offsets say. -/
theorem IsParameter.isWritten (h : IsParameter path p) :
    IsWritten p.name.toList (charsBetween path p.start p.stop) := by
  cases h with
  | @braced before segment after name start stop hsegment htoken =>
    have hlt := htoken.1.start_lt
    obtain ⟨text, rest, htext, hbraced, rfl⟩ := htoken.1
    have hstart : start ≤ segment.length := by
      have hlength := congrArg List.length htext
      rw [List.length_drop, List.length_append] at hlength
      omega
    have hfront : (before ++ segment.take start).length = before.length + start := by
      rw [List.length_append, List.length_take, Nat.min_eq_left hstart]
    have hcut : segment = segment.take start ++ (text ++ rest) := by
      rw [← htext, List.take_append_drop]
    have hpath : path = (before ++ segment.take start) ++ (text ++ (rest ++ after)) := by
      calc path = before ++ (segment ++ after) := hsegment.split
        _ = before ++ ((segment.take start ++ (text ++ rest)) ++ after) := by rw [← hcut]
        _ = (before ++ segment.take start) ++ (text ++ (rest ++ after)) := by
            simp only [List.append_assoc]
    refine Or.inl ?_
    dsimp only
    rwa [String.toList_ofList, ← Nat.add_assoc, ← hfront, hpath, charsBetween_append]
  | @whole before segment after name hsegment hdollar hname hnone =>
    refine Or.inr ?_
    dsimp only
    rw [String.toList_ofList, hsegment.split, charsBetween_append, hdollar]

/-! ## Parameters lie apart -/

variable {q : PathParameter} {before' segment' after' : List Char}

/-- A parameter in braces ends with the text or earlier. -/
theorem IsToken.stop_le (h : IsToken cs start stop name) : stop ≤ cs.length := by
  have hlt := h.start_lt
  obtain ⟨text, rest, htext, _, rfl⟩ := h
  have hlength := congrArg List.length htext
  rw [List.length_drop, List.length_append] at hlength
  omega

/-- Where a segment begins tells the segment. -/
theorem IsSegment.segment_eq (h : IsSegment path before segment after)
    (h' : IsSegment path before segment' after') : segment' = segment := by
  have hrest : segment ++ after = segment' ++ after' :=
    List.append_cancel_left (h.split.symm.trans h'.split)
  rcases h.closes with rfl | ⟨back, rfl⟩
  · rcases h'.closes with rfl | ⟨back', rfl⟩
    · simpa using hrest.symm
    · have hslash : '/' ∈ segment ++ [] := hrest ▸ by simp
      rw [List.append_nil] at hslash
      exact absurd hslash h.clear
  · rcases h'.closes with rfl | ⟨back', rfl⟩
    · have hslash : '/' ∈ segment' ++ [] := hrest ▸ by simp
      rw [List.append_nil] at hslash
      exact absurd hslash h'.clear
    · exact (split_at_first_unique h.clear h'.clear hrest).1

/-- A segment that begins later begins behind the slash that ends the other one. -/
theorem IsSegment.length_lt (h : IsSegment path before segment after)
    (h' : IsSegment path before' segment' after') (hlt : before.length < before'.length) :
    before.length + segment.length < before'.length := by
  obtain ⟨gap, rfl, hgap⟩ : ∃ gap, before' = before ++ gap ∧
      segment ++ after = gap ++ (segment' ++ after') := by
    rcases List.append_eq_append_iff.mp (h.split.symm.trans h'.split) with hgap | ⟨gap, rfl, _⟩
    · exact hgap
    · rw [List.length_append] at hlt
      omega
  have hslash : '/' ∈ gap := by
    rcases h'.opens with hnil | ⟨front, hfront⟩
    · rw [hnil] at hlt
      exact absurd hlt (Nat.not_lt_zero _)
    · rcases List.eq_nil_or_concat' gap with rfl | ⟨gap, last, rfl⟩
      · rw [List.append_nil] at hlt
        exact absurd hlt (Nat.lt_irrefl _)
      · rw [← List.append_assoc] at hfront
        rw [List.append_inj_right' hfront rfl]
        simp
  rw [List.length_append]
  rcases List.append_eq_append_iff.mp hgap with ⟨more, rfl, _⟩ | ⟨more, rfl, _⟩
  · -- the slash in the gap stands behind the segment
    have hmore : '/' ∈ more := (List.mem_append.mp hslash).resolve_left h.clear
    have hpos := List.length_pos_of_mem hmore
    rw [List.length_append]
    omega
  · exact absurd (List.mem_append_left more hslash) h.clear

/-- The parameter with the name stands between two offsets of the segment. -/
inductive StandsIn (segment : List Char) : Nat → Nat → List Char → Prop
  | braced {start stop : Nat} {name : List Char} (htoken : IsOutermost segment start stop name) :
      StandsIn segment start stop name
  | whole {name : List Char} (hdollar : segment = '$' :: name) (hname : name ≠ [])
      (hnone : ∀ start stop other, ¬ IsToken segment start stop other) :
      StandsIn segment 0 segment.length name

theorem IsParameter.exists_standsIn (h : IsParameter path p) :
    ∃ before segment after start stop name, IsSegment path before segment after ∧
      StandsIn segment start stop name ∧
        p = ⟨String.ofList name, before.length + start, before.length + stop⟩ := by
  cases h with
  | braced hsegment htoken => exact ⟨_, _, _, _, _, _, hsegment, .braced htoken, rfl⟩
  | whole hsegment hdollar hname hnone =>
    exact ⟨_, _, _, _, _, _, hsegment, .whole hdollar hname hnone, rfl⟩

theorem StandsIn.bounds (h : StandsIn segment start stop name) :
    start < stop ∧ stop ≤ segment.length := by
  cases h with
  | braced htoken => exact ⟨htoken.1.start_lt, htoken.1.stop_le⟩
  | whole hdollar hname hnone =>
    subst hdollar
    exact ⟨Nat.zero_lt_succ _, Nat.le_refl _⟩

/-- Of two parameters in a segment the one that begins first ends before the other one begins. -/
theorem StandsIn.stop_le (h : StandsIn segment start stop name)
    (h' : StandsIn segment start' stop' other) (hlt : start < start') : stop ≤ start' := by
  cases h with
  | braced htoken =>
    cases h' with
    | braced htoken' =>
      by_contra hinside
      -- they end with the same brace, so the inner one is not the longest
      obtain rfl := htoken.1.stop_eq htoken'.1 hlt.le (Nat.lt_of_not_le hinside)
      exact htoken'.2 start hlt name htoken.1
    | whole => exact absurd hlt (Nat.not_lt_zero _)
  | whole _ _ hnone =>
    cases h' with
    | braced htoken' => exact absurd htoken'.1 (hnone _ _ _)
    | whole => exact absurd hlt (Nat.lt_irrefl _)

/-- A parameter takes up characters of the path. -/
theorem IsParameter.start_lt_stop (h : IsParameter path p) : p.start < p.stop := by
  obtain ⟨before, segment, after, start, stop, name, _, hstands, rfl⟩ := h.exists_standsIn
  exact Nat.add_lt_add_left hstands.bounds.1 _

/-- Of two parameters of a path the one that begins first ends before the other one begins. -/
theorem IsParameter.stop_le_start (hp : IsParameter path p) (hq : IsParameter path q)
    (hlt : p.start < q.start) : p.stop ≤ q.start := by
  obtain ⟨before, segment, after, start, stop, name, hsegment, hstands, rfl⟩ := hp.exists_standsIn
  obtain ⟨before', segment', after', start', stop', other, hsegment', hstands', rfl⟩ :=
    hq.exists_standsIn
  have hbounds := hstands.bounds
  have hbounds' := hstands'.bounds
  dsimp only at hlt ⊢
  rcases Nat.lt_trichotomy before.length before'.length with hearlier | heq | hlater
  · have hapart := hsegment.length_lt hsegment' hearlier
    omega
  · obtain rfl : before' = before :=
      (List.append_inj (hsegment'.split.symm.trans hsegment.split) heq.symm).1
    obtain rfl := hsegment.segment_eq hsegment'
    exact Nat.add_le_add_left (hstands.stop_le hstands' (Nat.lt_of_add_lt_add_left hlt)) _
  · have hapart := hsegment'.length_lt hsegment hlater
    omega

/-! ## Invalid parameters -/

theorem isParameter_of_mem_invalidIn {path : String} (hp : p ∈ invalidIn path) :
    IsParameter path.toList p :=
  mem_inPath_iff.mp (List.mem_filter.mp hp).1

/-- The parameters that are found invalid lie apart, from left to right. -/
theorem pairwise_invalidIn (path : String) :
    (invalidIn path).Pairwise fun p q => p.stop ≤ q.start :=
  (beginIn_invalidIn path).1.imp_of_mem fun hp hq hlt =>
    (isParameter_of_mem_invalidIn hp).stop_le_start (isParameter_of_mem_invalidIn hq) hlt

/-- The parameters that are found invalid are, from left to right, exactly those whose name is
neither empty nor an identifier, apart from an identifier with a line feed after it; and each is
written where its offsets say. -/
theorem invalidIn_exact (path : String) :
    ((invalidIn path).Pairwise fun p q => p.start < q.start) ∧
      (∀ p, p ∈ invalidIn path ↔
        IsParameter path.toList p ∧ p.name ≠ "" ∧ ¬ IsIdentifier p.name.toList ∧
          ¬ ∃ front, p.name.toList = front ++ ['\n'] ∧ IsIdentifier front) ∧
      ∀ p ∈ invalidIn path, IsWritten p.name.toList (charsBetween path.toList p.start p.stop) := by
  have hexact : ∀ p, p ∈ invalidIn path ↔
      IsParameter path.toList p ∧ p.name ≠ "" ∧ ¬ IsIdentifier p.name.toList ∧
        ¬ ∃ front, p.name.toList = front ++ ['\n'] ∧ IsIdentifier front := fun p => by
    rw [invalidIn, List.mem_filter, mem_inPath_iff, Bool.and_eq_true, bne_iff_ne, Bool.not_eq_true',
      Bool.eq_false_iff, ne_eq (isIdentifier p.name), isIdentifier_iff, not_or]
  exact ⟨(beginIn_invalidIn path).1, hexact, fun p hp => ((hexact p).mp hp).1.isWritten⟩

example : invalidIn "/docs/\x7b-$lang\x7d/\x7b$1section\x7d" = [⟨"1section", 15, 26⟩] := by
  decide +kernel

/-- A name with a line feed at its end is no identifier, but the parameter is not found invalid. -/
theorem not_mem_invalidIn_lineFeed :
    IsParameter "$a\n".toList ⟨"a\n", 0, 3⟩ ∧ "a\n" ≠ "" ∧ ¬ IsIdentifier "a\n".toList ∧
      invalidIn "$a\n" = [] := by
  have hsegment : IsSegment "$a\n".toList [] "$a\n".toList [] :=
    ⟨rfl, by decide +kernel, Or.inl rfl, Or.inl rfl⟩
  have hbraced : bracedFrom 0 0 "$a\n".toList = [] := by decide +kernel
  have hparameter : IsParameter "$a\n".toList ⟨"a\n", 0, 3⟩ :=
    .whole hsegment rfl (List.cons_ne_nil 'a' ['\n']) (bracedFrom_eq_nil_iff.mp hbraced)
  exact ⟨hparameter, by decide, not_isIdentifier_lineFeed ['a'], by decide +kernel⟩

end PathParameter

end CodeConventions
