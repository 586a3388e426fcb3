import Mathlib.Algebra.Order.Field.Basic
import Mathlib.Algebra.Order.Field.Rat
import Mathlib.Data.List.Nodup
import Mathlib.Tactic.Linarith
import Mathlib.Tactic.Ring
import ShadeGraph.Number.Exact
import ShadeGraph.Operation.Ramp

/-!
# Lines of stops

Walking the stops of a ramp keeps the colour of the last pair that was passed.
Over stops in order of position that pair is the segment the factor lies in, so
a linear ramp is the piecewise linear line through its stops; a constant ramp
shows the last stop strictly before the factor, and its last stop from there on.
-/

namespace ShadeGraph

/-- The red, green, blue and alpha of a colour. -/
def Rgba.channel {α : Type} (c : Rgba α) : Fin 4 → α
  | 0 => c.rgb.x
  | 1 => c.rgb.y
  | 2 => c.rgb.z
  | 3 => c.alpha

theorem Rgba.channel_ext {α : Type} {c d : Rgba α} (same : ∀ k, c.channel k = d.channel k) :
    c = d := by
  obtain ⟨⟨x, y, z⟩, a⟩ := c
  obtain ⟨⟨x', y', z'⟩, a'⟩ := d
  have hx : x = x' := same 0
  have hy : y = y' := same 1
  have hz : z = z' := same 2
  have ha : a = a' := same 3
  rw [hx, hy, hz, ha]

theorem Rgba.channel_lerp (t : Rat) (c d : Rgba Rat) (k : Fin 4) :
    (Rgba.lerp t c d).channel k = (1 - t) * c.channel k + t * d.channel k := by
  match k with
  | 0 => rfl
  | 1 => rfl
  | 2 => rfl
  | 3 => rfl

theorem Rgba.lerp_zero (c d : Rgba Rat) : Rgba.lerp 0 c d = c := by
  apply Rgba.channel_ext
  intro k
  rw [Rgba.channel_lerp]
  ring

variable {stops rest : List (RampStop Rat)} {left first last a b : RampStop Rat}
  {sofar : Rgba Rat} {f : Rat}

/-- The factor lies past the stop at `j` and not past the next one. -/
structure Segment (stops : List (RampStop Rat)) (f : Rat) (j : Nat) (a b : RampStop Rat) :
    Prop where
  left : stops[j]? = some a
  right : stops[j + 1]? = some b
  passed : a.position < f
  ahead : f ≤ b.position

/-- Between two stops there is a segment for every factor. -/
theorem exists_segment (start : left.position < f) (finish : (left :: rest).getLast? = some last)
    (short : f < last.position) : ∃ j a b, Segment (left :: rest) f j a b := by
  induction rest generalizing left with
  | nil =>
    obtain rfl : left = last := by simpa using finish
    exact absurd short (lt_asymm start)
  | cons right rest ih =>
    by_cases ahead : f ≤ right.position
    · exact ⟨0, left, right, rfl, rfl, start, ahead⟩
    · rw [List.getLast?_cons_cons] at finish
      obtain ⟨j, a, b, segment⟩ := ih (not_le.1 ahead) finish
      exact ⟨j + 1, a, b, segment.left, segment.right, segment.passed, segment.ahead⟩

/-- Stops in order of position. -/
abbrev Ascending (stops : List (RampStop Rat)) : Prop :=
  stops.Pairwise fun a b => a.position ≤ b.position

theorem Ascending.position_le (ascending : Ascending stops) {i j : Nat} (h : i ≤ j)
    (ha : stops[i]? = some a) (hb : stops[j]? = some b) : a.position ≤ b.position := by
  obtain ⟨hi, rfl⟩ := List.getElem?_eq_some_iff.1 ha
  obtain ⟨hj, rfl⟩ := List.getElem?_eq_some_iff.1 hb
  rcases Nat.lt_or_eq_of_le h with before | rfl
  · exact List.pairwise_iff_getElem.1 ascending i j hi hj before
  · exact le_refl _

theorem Ascending.first_le (ascending : Ascending stops) (start : stops.head? = some first)
    (mem : a ∈ stops) : first.position ≤ a.position := by
  obtain ⟨rest, rfl⟩ := List.head?_eq_some_iff.1 start
  rcases List.mem_cons.1 mem with rfl | later
  · exact le_refl _
  · exact (List.pairwise_cons.1 ascending).1 a later

theorem Ascending.le_last (ascending : Ascending stops) (finish : stops.getLast? = some last)
    (mem : a ∈ stops) : a.position ≤ last.position := by
  obtain ⟨init, rfl⟩ := List.getLast?_eq_some_iff.1 finish
  rcases List.mem_append.1 mem with earlier | own
  · exact (List.pairwise_append.1 ascending).2.2 a earlier last (List.mem_singleton_self last)
  · rw [List.mem_singleton.1 own]

theorem Ascending.segment_unique (ascending : Ascending stops) {i j : Nat}
    {a' b' : RampStop Rat} (here : Segment stops f i a b) (there : Segment stops f j a' b') :
    i = j := by
  rcases Nat.lt_trichotomy i j with before | same | after
  · have le := ascending.position_le before here.right there.left
    linarith [here.ahead, there.passed]
  · exact same
  · have le := ascending.position_le after there.right here.left
    linarith [there.ahead, here.passed]

/-- Stops at distinct positions, in their order. -/
abbrev StrictlyAscending (stops : List (RampStop Rat)) : Prop :=
  stops.Pairwise fun a b => a.position < b.position

theorem StrictlyAscending.ascending (strict : StrictlyAscending stops) : Ascending stops :=
  strict.imp fun before => before.le

theorem StrictlyAscending.stop_unique (strict : StrictlyAscending stops) (ha : a ∈ stops)
    (hb : b ∈ stops) (same : a.position = b.position) : a = b := by
  have apart : (stops.map RampStop.position).Nodup :=
    List.pairwise_map.2 (strict.imp fun before => before.ne)
  exact List.inj_on_of_nodup_map apart ha hb same

namespace RampMode

variable (mode : RampMode)

theorem walk_nil : mode.walk f left sofar [] = if left.position ≤ f then left.color else sofar :=
  rfl

theorem walk_cons {right : RampStop Rat} : mode.walk f left sofar (right :: rest) =
    mode.walk f right (if left.position < f then
      Rgba.lerp (mode.progress left.position right.position f) left.color right.color
      else sofar) rest :=
  rfl

/-- The last stop decides from its own position on. -/
theorem walk_reached (finish : (left :: rest).getLast? = some last)
    (reached : last.position ≤ f) : mode.walk f left sofar rest = last.color := by
  induction rest generalizing left sofar with
  | nil =>
    obtain rfl : left = last := by simpa using finish
    rw [walk_nil, if_pos reached]
  | cons right rest ih =>
    rw [List.getLast?_cons_cons] at finish
    rw [walk_cons]
    exact ih finish

/-- Stops that are not passed leave the colour as it is. -/
theorem walk_ahead (finish : (left :: rest).getLast? = some last) (short : f < last.position)
    (ahead : ∀ stop ∈ left :: rest, f ≤ stop.position) :
    mode.walk f left sofar rest = sofar := by
  induction rest generalizing left sofar with
  | nil =>
    obtain rfl : left = last := by simpa using finish
    rw [walk_nil, if_neg (not_le.2 short)]
  | cons right rest ih =>
    rw [List.getLast?_cons_cons] at finish
    have here : f ≤ left.position := ahead left List.mem_cons_self
    rw [walk_cons, if_neg (not_lt.2 here)]
    exact ih finish fun stop mem => ahead stop (List.mem_cons_of_mem _ mem)

/-- Below the last stop the segment of the factor decides: every later pair is
still ahead. -/
theorem walk_segment (ascending : Ascending (left :: rest))
    (finish : (left :: rest).getLast? = some last) (short : f < last.position) {j : Nat}
    (segment : Segment (left :: rest) f j a b) :
    mode.walk f left sofar rest =
      Rgba.lerp (mode.progress a.position b.position f) a.color b.color := by
  induction rest generalizing left sofar j with
  | nil => cases segment.right
  | cons right rest ih =>
    rw [List.getLast?_cons_cons] at finish
    rw [walk_cons]
    cases j with
    | zero =>
      obtain ⟨⟨⟩, ⟨⟩, passed, ahead⟩ := segment
      rw [if_pos passed]
      apply mode.walk_ahead finish short
      intro stop mem
      have next : Ascending (b :: rest) := (List.pairwise_cons.1 ascending).2
      exact le_trans ahead (next.first_le rfl mem)
    | succ j =>
      exact ih (List.pairwise_cons.1 ascending).2 finish
        ⟨segment.left, segment.right, segment.passed, segment.ahead⟩

/-- A constant ramp keeps the last stop that lies strictly before the factor. -/
theorem walk_constant (finish : (left :: rest).getLast? = some last)
    (short : f < last.position) : constant.walk f left sofar rest =
      (((left :: rest).filter (·.position < f)).getLast?.map RampStop.color).getD sofar := by
  induction rest generalizing left sofar with
  | nil =>
    obtain rfl : left = last := by simpa using finish
    rw [walk_nil, if_neg (not_le.2 short), List.filter_cons_of_neg (by simpa using short.le)]
    rfl
  | cons right rest ih =>
    rw [List.getLast?_cons_cons] at finish
    rw [walk_cons, ih finish]
    by_cases passed : left.position < f
    · have kept : Rgba.lerp (constant.progress left.position right.position f) left.color
          right.color = left.color := Rgba.lerp_zero left.color right.color
      rw [if_pos passed, kept, List.filter_cons_of_pos (a := left) (by simpa using passed),
        List.getLast?_cons]
      cases ((right :: rest).filter (·.position < f)).getLast? <;> rfl
    · rw [if_neg passed, List.filter_cons_of_neg (a := left) (by simpa using passed)]

end RampMode

/-- The line that goes straight from each stop to the next and is level outside
of them, where a factor on a stop counts to the segment before it. -/
structure Interpolates (stops : List (RampStop Rat)) (line : Rat → Rgba Rat) : Prop where
  finish : ∀ {last f}, stops.getLast? = some last → last.position ≤ f → line f = last.color
  start : ∀ {first last f}, stops.head? = some first → stops.getLast? = some last →
    f < last.position → f ≤ first.position → line f = first.color
  between : ∀ {first last f}, stops.head? = some first → stops.getLast? = some last →
    first.position < f → f < last.position →
    ∃ j a b, Segment stops f j a b ∧ (∀ i a' b', Segment stops f i a' b' → i = j) ∧
      ∀ k, (line f).channel k =
        (1 - (f - a.position) / (b.position - a.position)) * a.color.channel k +
          (f - a.position) / (b.position - a.position) * b.color.channel k

theorem RampMode.linear_interpolates (ascending : Ascending (first :: rest)) :
    Interpolates (first :: rest) (linear.sample first rest) where
  finish finish reached := linear.walk_reached finish reached
  start := by
    rintro _ last f ⟨⟩ finish short before
    apply linear.walk_ahead finish short
    intro stop mem
    exact le_trans before (ascending.first_le rfl mem)
  between := by
    rintro _ last f ⟨⟩ finish start short
    obtain ⟨j, a, b, segment⟩ := exists_segment start finish short
    refine ⟨j, a, b, segment, fun i a' b' other => ascending.segment_unique other segment, ?_⟩
    intro k
    have apart : a.position ≠ b.position :=
      (lt_of_lt_of_le segment.passed segment.ahead).ne
    have value : linear.sample first rest f = Rgba.lerp
        ((f - a.position) / (b.position - a.position)) a.color b.color := by
      have walked : linear.walk f first first.color rest = _ :=
        linear.walk_segment ascending finish short segment
      rwa [progress, if_neg (by simpa using apart)] at walked
    rw [value, Rgba.channel_lerp]

namespace Interpolates

variable {line : Rat → Rgba Rat}

theorem ends (nonempty : stops ≠ []) :
    ∃ first last, stops.head? = some first ∧ stops.getLast? = some last :=
  ⟨stops.head nonempty, stops.getLast nonempty, List.head?_eq_some_head nonempty,
    List.getLast?_eq_some_getLast nonempty⟩

/-- Whatever bounds a channel of all stops bounds it along the line. -/
theorem bounded (h : Interpolates stops line) (nonempty : stops ≠ []) {k : Fin 4} {lo hi : Rat}
    (bounds : ∀ stop ∈ stops, lo ≤ stop.color.channel k ∧ stop.color.channel k ≤ hi) (f : Rat) :
    lo ≤ (line f).channel k ∧ (line f).channel k ≤ hi := by
  obtain ⟨first, last, start, finish⟩ := ends nonempty
  by_cases reached : last.position ≤ f
  · rw [h.finish finish reached]
    exact bounds last (List.mem_of_getLast? finish)
  have short := not_le.1 reached
  by_cases before : f ≤ first.position
  · rw [h.start start finish short before]
    exact bounds first (List.mem_of_head? start)
  obtain ⟨j, a, b, segment, -, value⟩ := h.between start finish (not_le.1 before) short
  obtain ⟨loA, hiA⟩ := bounds a (List.mem_of_getElem? segment.left)
  obtain ⟨loB, hiB⟩ := bounds b (List.mem_of_getElem? segment.right)
  have passed := segment.passed
  have ahead := segment.ahead
  have length : 0 < b.position - a.position := by linarith
  have share : 0 ≤ (f - a.position) / (b.position - a.position) :=
    div_nonneg (by linarith) length.le
  have rest : (f - a.position) / (b.position - a.position) ≤ 1 :=
    (div_le_one length).2 (by linarith)
  rw [value k]
  constructor <;> nlinarith

/-- A line through stops at distinct positions meets every one of them. -/
theorem meets (h : Interpolates stops line) (strict : StrictlyAscending stops)
    {stop : RampStop Rat} (mem : stop ∈ stops) : line stop.position = stop.color := by
  have ascending := strict.ascending
  obtain ⟨i, here⟩ := List.mem_iff_getElem?.1 mem
  obtain ⟨first, last, start, finish⟩ := ends (List.ne_nil_of_mem mem)
  by_cases reached : last.position ≤ stop.position
  · have same := le_antisymm reached (ascending.le_last finish mem)
    rw [h.finish finish reached, strict.stop_unique (List.mem_of_getLast? finish) mem same]
  by_cases before : stop.position ≤ first.position
  · have same := le_antisymm (ascending.first_le start mem) before
    rw [h.start start finish (not_le.1 reached) before,
      strict.stop_unique (List.mem_of_head? start) mem same]
  obtain ⟨j, a, b, segment, -, value⟩ :=
    h.between start finish (not_le.1 before) (not_le.1 reached)
  have same : b.position = stop.position := by
    rcases Nat.lt_or_ge j i with after | upTo
    · exact le_antisymm (ascending.position_le after segment.right here) segment.ahead
    · have le := ascending.position_le upTo here segment.left
      exact absurd segment.passed (not_lt.2 le)
  obtain rfl : b = stop := strict.stop_unique (List.mem_of_getElem? segment.right) mem same
  have length : b.position - a.position ≠ 0 := sub_ne_zero.2 segment.passed.ne'
  apply Rgba.channel_ext
  intro k
  rw [value k, div_self length]
  ring

end Interpolates

/-- The last stop at or before a factor. -/
def reached? (stops : List (RampStop Rat)) (f : Rat) : Option (RampStop Rat) :=
  (stops.filter (·.position ≤ f)).getLast?

/-- The last stop strictly before a factor. -/
def passed? (stops : List (RampStop Rat)) (f : Rat) : Option (RampStop Rat) :=
  (stops.filter (·.position < f)).getLast?

section

variable {before after : List (RampStop Rat)} {stop : RampStop Rat}

theorem reached?_all (ascending : Ascending stops) (finish : stops.getLast? = some last)
    (reached : last.position ≤ f) : reached? stops f = some last := by
  have all : stops.filter (·.position ≤ f) = stops := by
    apply List.filter_eq_self.2
    intro stop mem
    exact decide_eq_true (le_trans (ascending.le_last finish mem) reached)
  rw [reached?, all, finish]

theorem StrictlyAscending.around (strict : StrictlyAscending (before ++ stop :: after)) :
    (∀ a ∈ before, a.position < stop.position) ∧ ∀ a ∈ after, stop.position < a.position := by
  obtain ⟨-, behind, across⟩ := List.pairwise_append.1 strict
  exact ⟨fun a mem => across a mem stop List.mem_cons_self, (List.pairwise_cons.1 behind).1⟩

theorem reached?_at (strict : StrictlyAscending (before ++ stop :: after)) :
    reached? (before ++ stop :: after) stop.position = some stop := by
  obtain ⟨earlier, later⟩ := strict.around
  have kept : before.filter (·.position ≤ stop.position) = before :=
    List.filter_eq_self.2 fun a mem => decide_eq_true (earlier a mem).le
  have dropped : after.filter (·.position ≤ stop.position) = [] :=
    List.filter_eq_nil_iff.2 fun a mem => by simpa using later a mem
  rw [reached?, List.filter_append, kept, List.filter_cons_of_pos (by simp), dropped,
    List.getLast?_append]
  rfl

theorem passed?_at (strict : StrictlyAscending (before ++ stop :: after)) :
    passed? (before ++ stop :: after) stop.position = before.getLast? := by
  obtain ⟨earlier, later⟩ := strict.around
  have kept : before.filter (·.position < stop.position) = before :=
    List.filter_eq_self.2 fun a mem => decide_eq_true (earlier a mem)
  have dropped : after.filter (·.position < stop.position) = [] :=
    List.filter_eq_nil_iff.2 fun a mem => by simpa using (later a mem).le
  rw [passed?, List.filter_append, kept, List.filter_cons_of_neg (by simp), dropped,
    List.append_nil]

/-- Only a stop at the factor tells what is reached from what is passed. -/
theorem reached?_eq_passed? (apart : ∀ stop ∈ stops, stop.position ≠ f) :
    reached? stops f = passed? stops f := by
  rw [reached?, passed?]
  congr 1
  apply List.filter_congr
  intro stop mem
  exact decide_eq_decide.2 ⟨fun le => lt_of_le_of_ne le (apart stop mem), le_of_lt⟩

end

/-- The line that keeps the colour of the last stop passed, and that of the last
stop of all from its position on. -/
structure Lags (stops : List (RampStop Rat)) (line : Rat → Rgba Rat) : Prop where
  finish : ∀ {last f}, stops.getLast? = some last → last.position ≤ f → line f = last.color
  behind : ∀ {first last f}, stops.head? = some first → stops.getLast? = some last →
    f < last.position → line f = ((passed? stops f).getD first).color

theorem RampMode.constant_lags : Lags (first :: rest) (constant.sample first rest) where
  finish finish reached := constant.walk_reached finish reached
  behind := by
    rintro _ last f ⟨⟩ finish short
    have walked : constant.walk f first first.color rest = _ := walk_constant finish short
    rw [sample, walked, passed?]
    cases ((first :: rest).filter (·.position < f)).getLast? <;> rfl

/-- A lagging line has the colour of the last stop reached, but for the factors
that are the position of an inner stop of another colour than the one before. -/
theorem Lags.steps_iff {line : Rat → Rgba Rat} (h : Lags stops line)
    (strict : StrictlyAscending stops) (start : stops.head? = some first) (f : Rat) :
    line f = ((reached? stops f).getD first).color ↔
      ∀ before a b after, stops = before ++ a :: b :: after → after ≠ [] → b.position = f →
        a.color = b.color := by
  obtain ⟨last, finish⟩ : ∃ last, stops.getLast? = some last := by
    cases stops with
    | nil => cases start
    | cons first rest => exact ⟨_, List.getLast?_cons⟩
  constructor
  · rintro same before a b after split inner rfl
    obtain rfl : stops = (before ++ [a]) ++ b :: after := by simp [split]
    have mem : last ∈ after := by
      obtain ⟨init, c, rfl⟩ := (List.eq_nil_or_concat after).resolve_left inner
      obtain rfl : c = last := by simpa [List.getLast?_cons] using finish
      simp
    have short : b.position < last.position := strict.around.2 last mem
    rw [h.behind start finish short, passed?_at strict, reached?_at strict] at same
    simpa using same
  · intro level
    by_cases reached : last.position ≤ f
    · rw [h.finish finish reached, reached?_all strict.ascending finish reached]
      rfl
    have short := not_le.1 reached
    rw [h.behind start finish short]
    by_cases here : ∃ stop ∈ stops, stop.position = f
    · obtain ⟨stop, mem, rfl⟩ := here
      obtain ⟨before, after, rfl⟩ := List.append_of_mem mem
      rw [passed?_at strict, reached?_at strict]
      rcases List.eq_nil_or_concat before with rfl | ⟨init, a, rfl⟩
      · cases start
        rfl
      · have inner : after ≠ [] := by
          rintro rfl
          have own : stop = last := by simpa using finish
          exact absurd short (own ▸ lt_irrefl _)
        have same := level init a stop after (by simp) inner rfl
        simpa using same
    · rw [reached?_eq_passed? fun stop mem same => here ⟨stop, mem, same⟩]

end ShadeGraph
