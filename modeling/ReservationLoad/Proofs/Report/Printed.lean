import ReservationLoad.Proofs.Binary64.Printed
import ReservationLoad.Proofs.Report.Percentile
import ReservationLoad.Proofs.Report.Summary

/-!
# The printed report

A report is printed on five lines, or on twelve if it has latency figures, and no
line break ends the last of them.  The counts stand there with all their digits, and
every figure as the nearest decimal with two places, however large or small it is.
As printing keeps the order of figures, the latency figures of samples are printed
in ascending order, of however many samples checked arithmetic makes a report.
-/

namespace ReservationLoad

open Binary64 Wire

/-! ## Lines -/

/-- The lines of a text; a line break at its end makes one more line. -/
def textLines (text : String) : List String := (text.toList.splitOn '\n').map String.ofList

/-- Lines are found again, if they are some and have no breaks of their own. -/
theorem textLines_intercalate {lines : List String} (some : lines ≠ [])
    (unbroken : ∀ line ∈ lines, '\n' ∉ line.toList) :
    textLines (String.intercalate "\n" lines) = lines := by
  have split : (lines.map String.toList) ≠ [] := fun none => some (List.map_eq_nil_iff.mp none)
  have whole : ∀ line ∈ lines.map String.toList, '\n' ∉ line := List.forall_mem_map.mpr unbroken
  have breaks : "\n".toList = ['\n'] := rfl
  rw [textLines, String.toList_intercalate, breaks, List.splitOn_intercalate _ whole split,
    List.map_map]
  exact List.map_id'' (fun _ => String.ofList_toList) lines

theorem unbroken_append {left right : String} (front : '\n' ∉ left.toList)
    (behind : '\n' ∉ right.toList) : '\n' ∉ (left ++ right).toList := by
  rw [String.toList_append, List.mem_append]
  exact not_or.mpr ⟨front, behind⟩

theorem unbroken_of_digits {digits : List Char} (all : ∀ c ∈ digits, c.isDigit = true) :
    '\n' ∉ digits := fun inside => Bool.false_ne_true (all _ inside)

theorem TwoPlaces.unbroken_text (d : TwoPlaces) : '\n' ∉ d.text.toList := by
  have digit : ∀ i : Fin 10, '\n' ≠ Nat.digitChar i := by decide
  have whole := unbroken_of_digits fun _ => Decimal.isDigit_of_mem_ofNat (n := d.whole)
  rw [text, String.toList_ofList, chars]
  cases d.negative <;> simp [whole, digit]

theorem unbroken_toString (n : Nat) : '\n' ∉ (toString n).toList := by
  rw [Decimal.toList_toString]
  exact unbroken_of_digits fun _ => Decimal.isDigit_of_mem_ofNat

namespace Report

/-- The figures that are printed with two places, in the order of their lines. -/
def latencyFigures (r : Report) : List Binary64 :=
  match r.latency with
  | none => []
  | some l => [l.least, l.greatest, l.mean, l.deviation, l.p50, l.p95, l.p99]

/-- No figure of the report is infinite, and none is no number. -/
def IsFinite (r : Report) : Prop :=
  ∀ x ∈ r.elapsedSeconds :: r.throughput :: r.latencyFigures, x.isFinite = true

/-- The names of the latency figures. -/
def latencyLabels : List String := ["min", "max", "mean", "stdev", "p50", "p95", "p99"]

def latencyLine (label figure : String) : String := "Latency " ++ label ++ ": " ++ figure ++ "ms"

/-- The five lines that every report has. -/
def headLines (elapsed success errors throughput : String) : List String :=
  ["=== Stress Summary ===", "Elapsed: " ++ elapsed ++ "s", "Success: " ++ success,
    "Errors: " ++ errors, "Throughput: " ++ throughput ++ " req/s"]

theorem lines_eq (r : Report) : r.lines =
    headLines r.elapsedSeconds.twoPlaces (toString r.success.toNat) (toString r.errors.toNat)
        r.throughput.twoPlaces ++
      List.zipWith latencyLine latencyLabels (r.latencyFigures.map twoPlaces) := by
  rw [lines, headLines, latencyFigures]
  cases r.latency with
  | none => rfl
  | some l => rfl

theorem unbroken_latencyLines {figures : List String}
    (unbroken : ∀ figure ∈ figures, '\n' ∉ figure.toList) :
    ∀ line ∈ List.zipWith latencyLine latencyLabels figures, '\n' ∉ line.toList := by
  have labels : ∀ label ∈ latencyLabels, '\n' ∉ label.toList := by decide
  rw [← List.map_uncurry_zip_eq_zipWith, List.forall_mem_map]
  rintro ⟨label, figure⟩ inside
  obtain ⟨known, shown⟩ := List.of_mem_zip inside
  refine unbroken_append (unbroken_append (unbroken_append (unbroken_append ?_ ?_) ?_) ?_) ?_
  · decide
  · exact labels label known
  · decide
  · exact unbroken figure shown
  · decide

theorem unbroken_headLines {elapsed throughput : String} (success errors : Nat)
    (first : '\n' ∉ elapsed.toList) (last : '\n' ∉ throughput.toList) :
    ∀ line ∈ headLines elapsed (toString success) (toString errors) throughput,
      '\n' ∉ line.toList := by
  simp only [headLines, List.forall_mem_cons]
  refine ⟨by decide, ?_, ?_, ?_, ?_, List.forall_mem_nil _⟩
  · exact unbroken_append (unbroken_append (by decide) first) (by decide)
  · exact unbroken_append (by decide) (unbroken_toString success)
  · exact unbroken_append (by decide) (unbroken_toString errors)
  · exact unbroken_append (unbroken_append (by decide) last) (by decide)

/-- The lines of the text are those of the report, if no figure breaks one. -/
theorem textLines_text (r : Report) (finite : r.IsFinite) : textLines r.text = r.lines := by
  have unbroken : ∀ x : Binary64, x.isFinite = true → '\n' ∉ x.twoPlaces.toList := by
    intro x good
    rw [twoPlaces_eq good]
    exact x.printed.unbroken_text
  obtain ⟨elapsed, throughput, figures⟩ :=
    (List.forall_mem_cons.mp finite).imp_right List.forall_mem_cons.mp
  apply textLines_intercalate
  · rw [lines_eq]
    exact List.cons_ne_nil _ _
  · rw [lines_eq]
    refine List.forall_mem_append.mpr ⟨?_, unbroken_latencyLines ?_⟩
    · exact unbroken_headLines _ _ (unbroken _ elapsed) (unbroken _ throughput)
    · exact List.forall_mem_map.mpr fun x inside => unbroken x (figures x inside)

theorem length_lines (r : Report) : r.lines.length = if r.latency.isNone then 5 else 12 := by
  rw [lines]
  cases r.latency <;> rfl

end Report

/-! ## Latency figures -/

section Latency

variable {arithmetic : Arithmetic} {c : Collector} {span : Calendar.Span} {total : UInt64}
  {report : Report} {l : LatencySummary}

/-- A percentile lies between the least and the greatest sample, whatever its place
is. -/
theorem totalLe_percentile_ends {ascending : List Binary64} {perMille : UInt64} {x : Binary64}
    (sorted : ascending.Pairwise fun x y => totalLe x y = true) (inside : 0 < ascending.length)
    (found : percentile arithmetic ascending perMille = .ok x) :
    totalLe ascending[0] x = true ∧
      totalLe x (ascending.get ⟨ascending.length - 1, Nat.sub_one_lt (Nat.ne_of_gt inside)⟩) =
        true := by
  obtain ⟨place, atPlace⟩ := exists_place inside found
  obtain ⟨within, rfl⟩ := List.getElem?_eq_some_iff.mp atPlace
  exact ⟨totalLe_getElem sorted inside (Nat.zero_le _) within,
    totalLe_getElem sorted within (by omega) (Nat.sub_one_lt (Nat.ne_of_gt inside))⟩

/-- Checked arithmetic yields the place of the number of samples as a word. -/
theorem index_of_checked {count index : Nat} {perMille : UInt64}
    (indexed : percentileIndex .checked count perMille = .ok index) :
    index = count % UInt64.size * perMille.toNat / 1000 := by
  obtain ⟨product, settled, rfl⟩ := exists_of_map_eq_ok indexed
  rw [UInt64.toNat_div, Arithmetic.toNat_of_settle_checked settled, UInt64.toNat_ofNat']
  rfl

/-- More thousandths have no smaller percentile in checked arithmetic. -/
theorem totalLe_of_percentile_checked {ascending : List Binary64} {lower perMille : UInt64}
    {x y : Binary64} (sorted : ascending.Pairwise fun x y => totalLe x y = true)
    (inside : 0 < ascending.length) (ordered : lower ≤ perMille)
    (foundLower : percentile .checked ascending lower = .ok x)
    (found : percentile .checked ascending perMille = .ok y) : totalLe x y = true := by
  obtain ⟨front, indexedFront, -⟩ := exists_of_map_eq_ok foundLower
  obtain ⟨back, indexedBack, -⟩ := exists_of_map_eq_ok found
  obtain ⟨x', found', atFront⟩ := percentile_eq_getElem? inside indexedFront
  cases found'.symm.trans foundLower
  obtain ⟨y', found', atBack⟩ := percentile_eq_getElem? inside indexedBack
  cases found'.symm.trans found
  have product := Nat.mul_le_mul_left (ascending.length % UInt64.size)
    (UInt64.le_iff_toNat_le.mp ordered)
  have places : front ≤ back := by
    rw [index_of_checked indexedFront, index_of_checked indexedBack]
    exact Nat.div_le_div_right product
  exact totalLe_getElem? sorted (by omega) atFront atBack

/-- What the latency figures of a report are. -/
theorem Collector.figures_of_summarize (done : c.summarize arithmetic span total = .ok report)
    (summed : report.latency = some l) :
    ∃ inside : 0 < (sortAscending c.samples).length,
      l.least = (sortAscending c.samples)[0] ∧
      l.greatest = (sortAscending c.samples)[(sortAscending c.samples).length - 1] ∧
      percentile arithmetic (sortAscending c.samples) 500 = .ok l.p50 ∧
      percentile arithmetic (sortAscending c.samples) 950 = .ok l.p95 ∧
      percentile arithmetic (sortAscending c.samples) 990 = .ok l.p99 := by
  have made := (eq_of_summarize done).1
  rw [summed] at made
  obtain ⟨inside, -, least, greatest, -, percentiles⟩ :=
    LatencySummary.figures_of_ofAscending? made
  exact ⟨inside, least, greatest, percentiles⟩

theorem Collector.isFinite_latencyFigures (finite : ∀ x ∈ c.samples, x.isFinite = true)
    (done : c.summarize arithmetic span total = .ok report) (summed : report.latency = some l) :
    ∀ x ∈ [l.least, l.p50, l.p95, l.p99, l.greatest], x.isFinite = true := by
  obtain ⟨inside, least, greatest, p50, p95, p99⟩ := figures_of_summarize done summed
  have recorded : ∀ x ∈ sortAscending c.samples, x.isFinite = true :=
    fun x member => finite x ((sortAscending_perm c.samples).mem_iff.mp member)
  have percentiles : ∀ {perMille x},
      percentile arithmetic (sortAscending c.samples) perMille = .ok x → x.isFinite = true := by
    intro perMille x found
    obtain ⟨place, atPlace⟩ := exists_place inside found
    exact recorded x (List.mem_of_getElem? atPlace)
  rw [least, greatest]
  simp only [List.forall_mem_cons]
  exact ⟨recorded _ (List.getElem_mem _), percentiles p50, percentiles p95, percentiles p99,
    recorded _ (List.getElem_mem _), List.forall_mem_nil _⟩

/-- The latency figures of samples are printed in ascending order. -/
theorem Collector.printed_latencyFigures (done : c.summarize .checked span total = .ok report)
    (summed : report.latency = some l) :
    [l.least.printed.value, l.p50.printed.value, l.p95.printed.value, l.p99.printed.value,
      l.greatest.printed.value].Pairwise (· ≤ ·) := by
  obtain ⟨inside, least, greatest, p50, p95, p99⟩ := figures_of_summarize done summed
  have sorted := pairwise_sortAscending c.samples
  have printed : ∀ {x y : Binary64}, totalLe x y = true → x.printed.value ≤ y.printed.value :=
    fun ordered => printed_le (value_le_of_totalLe ordered)
  rw [← List.isChain_iff_pairwise, least, greatest]
  simp only [List.isChain_cons_cons, List.isChain_singleton, and_true]
  exact ⟨printed (totalLe_percentile_ends sorted inside p50).1,
    printed (totalLe_of_percentile_checked sorted inside (by decide) p50 p95),
    printed (totalLe_of_percentile_checked sorted inside (by decide) p95 p99),
    printed (totalLe_percentile_ends sorted inside p99).2⟩

end Latency

/-- A report is printed line by line: its counts in full, and each of its figures as
the nearest decimal with two places.  Larger figures have no smaller decimals, and so
the latency figures of finite samples are printed in ascending order whenever there is
a report on them. -/
theorem report_printed_faithfully :
    (∀ r : Report, r.IsFinite → ∃ (elapsed throughput : TwoPlaces) (figures : List TwoPlaces),
      elapsed.Rounds r.elapsedSeconds ∧ throughput.Rounds r.throughput ∧
      List.Forall₂ TwoPlaces.Rounds figures r.latencyFigures ∧
      textLines r.text =
        Report.headLines elapsed.text (toString r.success.toNat) (toString r.errors.toNat)
            throughput.text ++
          List.zipWith Report.latencyLine Report.latencyLabels (figures.map TwoPlaces.text) ∧
      (textLines r.text).length = if r.latency.isNone then 5 else 12) ∧
    (∀ x y : Binary64, x.isFinite = true → y.isFinite = true → x.value ≤ y.value →
      ∀ d e : TwoPlaces, x.twoPlaces = d.text → y.twoPlaces = e.text → d.value ≤ e.value) ∧
    (∀ (c : Collector) (span : Calendar.Span) (total : UInt64) (report : Report)
      (l : LatencySummary), (∀ x ∈ c.samples, x.isFinite = true) →
      c.summarize .checked span total = .ok report → report.latency = some l →
      ∃ least p50 p95 p99 greatest : TwoPlaces,
        [l.least, l.p50, l.p95, l.p99, l.greatest].map twoPlaces =
            [least, p50, p95, p99, greatest].map TwoPlaces.text ∧
        [least.value, p50.value, p95.value, p99.value, greatest.value].Pairwise (· ≤ ·)) := by
  refine ⟨fun r finite => ?_, fun x y finiteX finiteY ordered d e same same' => ?_, ?_⟩
  · obtain ⟨elapsed, throughput, figures⟩ :=
      (List.forall_mem_cons.mp finite).imp_right List.forall_mem_cons.mp
    have texts : r.latencyFigures.map twoPlaces =
        (r.latencyFigures.map printed).map TwoPlaces.text := by
      rw [List.map_map]
      exact List.map_congr_left fun x inside => twoPlaces_eq (figures x inside)
    refine ⟨_, _, r.latencyFigures.map printed, rounds_printed _, rounds_printed _, ?_, ?_, ?_⟩
    · rw [List.forall₂_map_left_iff, List.forall₂_same]
      exact fun x _ => x.rounds_printed
    · rw [r.textLines_text finite, r.lines_eq, texts, twoPlaces_eq elapsed,
        twoPlaces_eq throughput]
    · rw [r.textLines_text finite, r.length_lines]
  · rw [twoPlaces_eq finiteX] at same
    rw [twoPlaces_eq finiteY] at same'
    rw [← TwoPlaces.text_injective same, ← TwoPlaces.text_injective same']
    exact printed_le ordered
  · intro c span total report l finite done summed
    refine ⟨l.least.printed, l.p50.printed, l.p95.printed, l.p99.printed, l.greatest.printed, ?_,
      Collector.printed_latencyFigures done summed⟩
    have shown := List.map_congr_left fun x inside =>
      twoPlaces_eq (Collector.isFinite_latencyFigures finite done summed x inside)
    exact shown

/-- A tie, the greatest double and the greatest count, and figures of two samples. -/
theorem report_printed_faithfully_at_the_limits :
    let r : Report :=
      { elapsedSeconds := ⟨0x3fc0000000000000⟩, totalRequests := 0,
        success := 18446744073709551615, errors := 0, throughput := ⟨0x7fefffffffffffff⟩,
        latency := none }
    let c : Collector := ⟨2, 0, [⟨0x3fd8000000000000⟩, ⟨0xbf50624dd2f1a9fc⟩]⟩
    (textLines r.text).length = 5 ∧
    (textLines r.text).take 3 = ["=== Stress Summary ===", "Elapsed: 0.12s",
      "Success: 18446744073709551615"] ∧
    (∀ e : TwoPlaces, r.throughput.twoPlaces = e.text →
      (⟨false, 0, 1, 2⟩ : TwoPlaces).value ≤ e.value) ∧
    ∃ report l, c.summarize .checked ⟨1, 0⟩ 2 = .ok report ∧ report.latency = some l ∧
      ∃ p50 p95 p99 : TwoPlaces, [l.p50, l.p95, l.p99].map twoPlaces =
        [p50, p95, p99].map TwoPlaces.text ∧ p50.value ≤ p95.value ∧ p95.value ≤ p99.value := by
  intro r c
  have finite : r.IsFinite := by
    rw [Report.IsFinite]
    decide
  have recorded : ∀ x ∈ c.samples, x.isFinite = true := by decide
  have tie : r.elapsedSeconds.twoPlaces = (⟨false, 0, 1, 2⟩ : TwoPlaces).text := by
    decide +kernel
  obtain ⟨report, monotone, figures⟩ := report_printed_faithfully
  obtain ⟨_, _, _, -, -, -, -, size⟩ := report r finite
  refine ⟨size, ?_, ?_, ?_⟩
  · rw [r.textLines_text finite]
    decide +kernel
  · intro e same
    refine monotone r.elapsedSeconds r.throughput (by decide) (by decide) ?_ _ e tie same
    exact value_le_of_totalLe (by decide)
  · obtain ⟨summary, done⟩ : ∃ summary, c.summarize .checked ⟨1, 0⟩ 2 = .ok summary :=
      (Collector.exists_summarize_iff (by decide)).mpr (.inr (by decide))
    have present : summary.latency ≠ none := by
      rw [ne_eq, Collector.latency_eq_none_iff done]
      decide
    obtain ⟨l, summed⟩ := Option.ne_none_iff_exists'.mp present
    obtain ⟨_, p50, p95, p99, _, texts, ordered⟩ :=
      figures c ⟨1, 0⟩ 2 summary l recorded done summed
    have inner := congrArg (fun texts => (texts.drop 1).take 3) texts
    simp only [← List.isChain_iff_pairwise, List.isChain_cons_cons] at ordered
    exact ⟨summary, l, done, summed, p50, p95, p99, inner, ordered.2.1, ordered.2.2.1⟩

end ReservationLoad
