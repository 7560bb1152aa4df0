import TypedCollections.Proofs.ObjectId.Order
/-!
# The identifiers of one process

The identifier made after so many others is known exactly: the seconds of the clock's reading, cut
to 32 bits, the octets of the process, and the counter's first value advanced by as many steps, cut
to 24 bits. So two identifiers are the same exactly if their seconds agree up to 32 bits and their
numbers in the order of generation up to 24, wherever the counter began and whether or not it wrapped
around.
-/

namespace TypedCollections

namespace ObjectId

/-- The whole seconds of a clock's reading. -/
def wholeSeconds (now : Int) : Nat := readClock now / 1000

theorem bigEndian_inj {octets others : List UInt8} (h : octets.length = others.length) :
    bigEndian octets = bigEndian others ↔ octets = others := by
  rw [← Nat.compare_eq_eq, ← compare_octets h, Std.LawfulEqCmp.compare_eq_iff_eq]

theorem octetsOf_eq_iff {width m n : Nat} :
    octetsOf width m = octetsOf width n ↔ m % 256 ^ width = n % 256 ^ width := by
  have hlength : (octetsOf width m).length = (octetsOf width n).length := by
    rw [length_octetsOf, length_octetsOf]
  rw [← bigEndian_inj hlength, bigEndian_octetsOf, bigEndian_octetsOf]

namespace Generator

/-- The identifiers made at readings of the clock, one after the other. -/
def made (generator : Generator) : List Int → List ObjectId
  | [] => []
  | now :: rest =>
      (generator.next (readClock now)).1 :: (generator.next (readClock now)).2.made rest

/-- The generator after it made so many identifiers. -/
def after (generator : Generator) (count : Nat) : Generator :=
  { generator with counter := generator.counter + UInt32.ofNat count }

theorem counter_after (generator : Generator) (count : Nat) :
    (generator.after count).counter.toNat = (generator.counter.toNat + count) % 2 ^ 32 := by
  rw [after, UInt32.toNat_add, UInt32.toNat_ofNat', Nat.add_mod_mod]

theorem timestamp_next (generator : Generator) (millis : Nat) :
    (generator.next millis).1.timestamp = millis / 1000 % 2 ^ 32 := by
  have hoctets : (generator.next millis).1.octets
      = octetsOf 4 (millis / 1000) ++ (generator.process ++ octetsOf 3 generator.counter.toNat) :=
    List.append_assoc ..
  rw [timestamp, hoctets, List.take_left' (length_octetsOf 4 _), bigEndian_octetsOf]
  rfl

/-- Two generators of one process make the same identifier exactly if the seconds agree up to 32
bits and the counters up to 24. -/
theorem next_eq_iff {generator other : Generator} (hprocess : generator.process = other.process)
    {millis millis' : Nat} : (generator.next millis).1 = (other.next millis').1 ↔
      millis / 1000 % 2 ^ 32 = millis' / 1000 % 2 ^ 32 ∧
        generator.counter.toNat % 2 ^ 24 = other.counter.toNat % 2 ^ 24 := by
  have hwidth : ∀ width m n : Nat, (octetsOf width m).length = (octetsOf width n).length := by
    intro width m n
    rw [length_octetsOf, length_octetsOf]
  rw [next, next, ObjectId.mk.injEq, hprocess, List.append_assoc, List.append_assoc,
    List.append_eq_append_iff_of_size_eq_left (hwidth 4 _ _), List.append_right_inj,
    octetsOf_eq_iff, octetsOf_eq_iff]
  rfl

/-- What is made after so many identifiers. -/
theorem getElem?_made (generator : Generator) (readings : List Int) (count : Nat) :
    (generator.made readings)[count]?
      = readings[count]?.map fun now => ((generator.after count).next (readClock now)).1 := by
  induction readings generalizing generator count with
  | nil => rfl
  | cons now rest ih =>
      cases count with
      | zero =>
          have hafter : generator.after 0 = generator := by simp [after]
          rw [hafter]
          rfl
      | succ count =>
          have hafter : (generator.next (readClock now)).2.after count
              = generator.after (count + 1) := by
            simp only [after, next, UInt32.ofNat_add, Generator.mk.injEq, true_and]
            grind
          rw [made, List.getElem?_cons_succ, List.getElem?_cons_succ, ih, hafter]

variable {readings : List Int} {i j : Nat} {now now' : Int}

/-- Two identifiers of one process are the same exactly if their seconds agree up to 32 bits and
their numbers in the order of generation up to 24. -/
theorem made_eq_iff (generator : Generator) (hi : readings[i]? = some now)
    (hj : readings[j]? = some now') :
    (generator.made readings)[i]? = (generator.made readings)[j]? ↔
      wholeSeconds now % 2 ^ 32 = wholeSeconds now' % 2 ^ 32 ∧ i % 2 ^ 24 = j % 2 ^ 24 := by
  have hcounter : (generator.after i).counter.toNat % 2 ^ 24
      = (generator.after j).counter.toNat % 2 ^ 24 ↔ i % 2 ^ 24 = j % 2 ^ 24 := by
    rw [counter_after, counter_after]
    omega
  have hprocess : (generator.after i).process = (generator.after j).process := rfl
  rw [getElem?_made, getElem?_made, hi, hj, Option.map_some, Option.map_some, Option.some.injEq,
    next_eq_iff hprocess, hcounter]
  rfl

/-- Of the identifiers made one after the other, those that are fewer than `2 ^ 24` apart are
different, and those of an earlier second come first, as long as the seconds fit 32 bits. -/
theorem made_apart_and_in_order (generator : Generator) (hi : readings[i]? = some now)
    (hj : readings[j]? = some now') :
    ∃ id id', (generator.made readings)[i]? = some id ∧ (generator.made readings)[j]? = some id' ∧
      (i < j → j - i < 2 ^ 24 → id ≠ id') ∧
      (wholeSeconds now < wholeSeconds now' → wholeSeconds now' < 2 ^ 32 →
        compare id id' = .lt) := by
  have heq := made_eq_iff generator hi hj
  have hid := getElem?_made generator readings i
  have hid' := getElem?_made generator readings j
  rw [hi, Option.map_some] at hid
  rw [hj, Option.map_some] at hid'
  refine ⟨_, _, hid, hid', fun hlt hnear hsame => ?_, fun hlt hfits => ?_⟩
  · rw [hid, hid', hsame] at heq
    have hplaces := (heq.1 rfl).2
    omega
  · apply compare_eq_lt_of_timestamp_lt
    rw [timestamp_next, timestamp_next]
    show wholeSeconds now % 2 ^ 32 < wholeSeconds now' % 2 ^ 32
    rw [Nat.mod_eq_of_lt hfits, Nat.mod_eq_of_lt (Nat.lt_trans hlt hfits)]
    exact hlt

/-- A counter that wraps around and a clock that is set back between two identifiers. -/
theorem made_apart_across_wrapping :
    let generator : Generator := ⟨[1, 2, 3, 4, 5], 0xffffffff, rfl⟩
    let readings : List Int := [1700000000999, -5, 1700000001000]
    readings[0]? = some 1700000000999 ∧ readings[2]? = some 1700000001000 ∧
      ∃ id id', (generator.made readings)[0]? = some id ∧ (generator.made readings)[2]? = some id' ∧
        id ≠ id' ∧ compare id id' = .lt := by
  intro generator readings
  have hfirst : readings[0]? = some 1700000000999 := rfl
  have hlast : readings[2]? = some 1700000001000 := rfl
  obtain ⟨id, id', hid, hid', happart, hordered⟩ := made_apart_and_in_order generator hfirst hlast
  exact ⟨hfirst, hlast, id, id', hid, hid', happart (by decide) (by decide),
    hordered (by decide) (by decide)⟩

end Generator

end ObjectId

end TypedCollections
