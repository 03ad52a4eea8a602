import Storefront.Proofs.Sense

/-!
# The sense of records

A record that is written as a list takes the items for its members in order. One that is written as
an object takes for each member the one value given under any of its keys, and pays no attention
to members it does not know. `Reads.record` says that a record is read so if its members are read
in their senses and no key names two of them.
-/

namespace Storefront.Json

open Storefront.Text (Units)

/-- A sense for every member. -/
def Senses : List Member → Type
  | [] => Unit
  | member :: members => (Value → member.Value → Prop) × Senses members

/-- Every member is read in its sense. -/
def Senses.Read : (members : List Member) → Senses members → Prop
  | [], _ => True
  | member :: members, (sense, senses) => Reads member.read sense ∧ Senses.Read members senses

/-- No key names two members. -/
def AreApart (members : List Member) : Prop :=
  members.Pairwise fun earlier later =>
    ∀ key, earlier.answersTo key = true → later.answersTo key = false

/-- The row that items stand for, in order. Members beyond the last item fall back. -/
def Listed : (members : List Member) → Senses members → List Value → Row members → Prop
  | [], _, items, _ => items = []
  | member :: members, (_, senses), [], (value, row) =>
      member.fallback = some value ∧ Listed members senses [] row
  | _ :: members, (sense, senses), item :: items, (value, row) =>
      sense item value ∧ Listed members senses items row

/-- What was given under the keys of a member. -/
def Member.among (member : Member) (given : List (String × Json.Value)) :
    List (String × Json.Value) :=
  given.filter fun other => member.answersTo other.1

/-- A member ends with a value: the one it has, if no other is given, or the only one given, or
its fallback. -/
def Member.Settles (member : Member) (sense : Json.Value → member.Value → Prop)
    (slot : Option member.Value) (given : List (String × Json.Value)) (value : member.Value) :
    Prop :=
  match slot with
  | some known => known = value ∧ member.among given = []
  | none =>
      (∃ key item, member.among given = [(key, item)] ∧ sense item value) ∨
        (member.among given = [] ∧ member.fallback = some value)

/-- Every member ends with its value of a row. -/
def Settled : (members : List Member) → Senses members → Slots members →
    List (String × Value) → Row members → Prop
  | [], _, _, _, _ => True
  | member :: members, (sense, senses), (slot, slots), given, (value, row) =>
      member.Settles sense slot given value ∧ Settled members senses slots given row

/-- Members of an object under the units of their keys. -/
def encodeKeys (given : List (String × Value)) : List (Units × Value) :=
  given.map fun (key, value) => (Units.encode key, value)

/-- The records that a list or an object stands for. -/
def Shape.Sense {α : Type} (shape : Shape α) (senses : Senses shape.members) (value : Value)
    (result : α) : Prop :=
  ∃ row, result = shape.build row ∧
    ((∃ items, value = .list items ∧ Listed shape.members senses items row) ∨
      ∃ given, value = .object (encodeKeys given) ∧
        Settled shape.members senses (Slots.empty shape.members) given row)

/-! ## Records as lists -/

theorem readRow_sound {members : List Member} {senses : Senses members}
    (read : senses.Read) {extent : String} {length : Nat} {row : Row members}
    {left behind rest : List Char} (reads : readRow extent members length left = .ok (row, behind))
    (ends : endList behind = .ok rest) :
    ∃ items, Items (length = 0) left items rest ∧ Listed members senses items row := by
  induction members generalizing length left with
  | nil =>
      cases reads
      exact ⟨[], .close (endList_eq_ok.mp ends), rfl⟩
  | cons member members inductionHypothesis =>
      obtain ⟨sense, senses⟩ := senses
      obtain ⟨value, row⟩ := row
      obtain ⟨first, others⟩ := read
      obtain ⟨⟨more, start⟩, next, reads⟩ := bind_eq_ok.mp reads
      rcases nextElement_sound next with ⟨rfl, begins⟩ | ⟨rfl, closed, rfl, blanks⟩
      · obtain ⟨⟨found, middle⟩, one, reads⟩ := bind_eq_ok.mp reads
        obtain ⟨⟨further, last⟩, row, reads⟩ := bind_eq_ok.mp reads
        cases reads
        obtain ⟨front, item, before, spells, meaning⟩ := first.sound one
        obtain ⟨items, inside, listed⟩ := inductionHypothesis others row
        exact ⟨item :: items, .item (begins.trans before) spells (by simpa using inside),
          meaning, listed⟩
      · simp only [Bool.false_eq_true, if_false] at reads
        split at reads
        · simp [refuse] at reads
        · next absent =>
          obtain ⟨⟨further, last⟩, row, reads⟩ := bind_eq_ok.mp reads
          cases reads
          obtain ⟨items, inside, listed⟩ := inductionHypothesis others row
          cases inside with
          | close bracket => exact ⟨[], .close (blanks.trans bracket), absent, listed⟩
          | item begins spells others =>
              obtain ⟨c, more, rfl, solid, other⟩ := spells.isElement
              exact (begins.not_closed solid other .refl (by decide) (by decide)).elim

theorem Items.readRow_eq {members : List Member} {senses : Senses members}
    (read : senses.Read) (extent : String) (length : Nat) {row : Row members} {items : List Value}
    {left rest : List Char} (inside : Items (length = 0) left items rest)
    (listed : Listed members senses items row) :
    ∃ behind, readRow extent members length left = .ok (row, behind) ∧
      endList behind = .ok rest := by
  induction members generalizing length left items with
  | nil =>
      obtain rfl : items = [] := listed
      cases inside with
      | close blanks => exact ⟨left, rfl, endList_eq_ok.mpr blanks⟩
  | cons member members inductionHypothesis =>
      obtain ⟨sense, senses⟩ := senses
      obtain ⟨value, row⟩ := row
      obtain ⟨first, others⟩ := read
      cases inside with
      | close blanks =>
          obtain ⟨absent, listed⟩ := listed
          obtain ⟨behind, reads, ends⟩ := inductionHypothesis others (length + 1)
            (.close .refl) listed
          exact ⟨behind, by simp [readRow, nextElement_closed blanks, absent, reads, bind,
            Except.bind], ends⟩
      | item begins spells inside =>
          obtain ⟨meaning, listed⟩ := listed
          have one := first.complete .refl spells inside.delimited meaning
          obtain ⟨behind, reads, ends⟩ := inductionHypothesis others (length + 1)
            (by simpa using inside) listed
          exact ⟨behind, by simp [readRow, nextElement_begins begins spells.isElement, one, reads,
            bind, Except.bind], ends⟩

/-! ## Records as objects -/

section Slots

variable {key : String} {item : Json.Value} {given : List (String × Json.Value)}

namespace Member

variable {member : Member} {sense : Json.Value → member.Value → Prop} {slot : Option member.Value}
  {value : member.Value}

theorem among_own (own : member.answersTo key = true) :
    member.among ((key, item) :: given) = (key, item) :: member.among given :=
  List.filter_cons_of_pos own

theorem among_other (other : member.answersTo key = false) :
    member.among ((key, item) :: given) = member.among given :=
  List.filter_cons_of_neg (by simp [other])

theorem settles_nil :
    member.Settles sense slot [] value ↔ slot.or member.fallback = some value := by
  cases slot <;> simp [Settles, among]

theorem settles_own (own : member.answersTo key = true) :
    member.Settles sense slot ((key, item) :: given) value ↔
      slot = none ∧ sense item value ∧ member.among given = [] := by
  cases slot <;> simp [Settles, among_own own, and_comm]

theorem settles_other (other : member.answersTo key = false) :
    member.Settles sense slot ((key, item) :: given) value ↔
      member.Settles sense slot given value := by
  simp only [Settles, among_other other]

end Member

variable {members : List Member} {senses : Senses members} {slots : Slots members}
  {row : Row members}

theorem knows_cons {member : Member} :
    knows (member :: members) key = (member.answersTo key || knows members key) := rfl

/-- An object that has ended is complete if and only if its members are settled. -/
theorem complete_eq_ok {left : List Char} :
    Slots.complete members slots left = .ok row ↔ Settled members senses slots [] row := by
  induction members with
  | nil => exact ⟨fun _ => trivial, fun _ => rfl⟩
  | cons member members inductionHypothesis =>
      obtain ⟨sense, senses⟩ := senses
      obtain ⟨slot, slots⟩ := slots
      obtain ⟨value, row⟩ := row
      rw [Settled, Member.settles_nil, ← inductionHypothesis, Slots.complete]
      cases slot.or member.fallback with
      | none => simp [refuse, bind, Except.bind]
      | some found =>
          cases Slots.complete members slots left with
          | error fault => simp [bind, Except.bind]
          | ok others =>
              constructor
              · intro whole
                cases whole
                exact ⟨rfl, rfl⟩
              · rintro ⟨same, rest⟩
                cases same
                cases rest
                rfl

theorem settled_unknown (unknown : knows members key = false) :
    Settled members senses slots ((key, item) :: given) row ↔
      Settled members senses slots given row := by
  induction members with
  | nil => exact Iff.rfl
  | cons member members inductionHypothesis =>
      obtain ⟨sense, senses⟩ := senses
      obtain ⟨slot, slots⟩ := slots
      obtain ⟨value, row⟩ := row
      rw [knows_cons, Bool.or_eq_false_iff] at unknown
      rw [Settled, Settled, Member.settles_other unknown.1, inductionHypothesis unknown.2]

theorem knows_apart {member : Member} (apart : AreApart (member :: members))
    (own : member.answersTo key = true) : knows members key = false := by
  rw [knows, List.any_eq_false]
  intro other among
  simp [(List.pairwise_cons.mp apart).1 other among key own]

/-- A slot that was filled had been empty, and what was read into it is given first. -/
theorem fill_sound (read : senses.Read) (apart : AreApart members)
    (known : knows members key = true) {filled : Slots members} {left next : List Char}
    (fills : Slots.fill key members slots left = .ok (filled, next)) :
    ∃ gap start item, Blanks left (':' :: gap) ∧ Blanks gap start ∧ Spells start item next ∧
      ∀ {given row}, Settled members senses filled given row →
        Settled members senses slots ((key, item) :: given) row := by
  induction members with
  | nil => simp [knows] at known
  | cons member members inductionHypothesis =>
      obtain ⟨sense, senses⟩ := senses
      obtain ⟨slot, slots⟩ := slots
      obtain ⟨first, others⟩ := read
      by_cases own : member.answersTo key = true
      · simp only [Slots.fill, if_pos own] at fills
        cases slot with
        | some known => simp [refuse] at fills
        | none =>
            obtain ⟨gap, colon, fills⟩ := bind_eq_ok.mp fills
            obtain ⟨⟨found, last⟩, one, fills⟩ := bind_eq_ok.mp fills
            cases fills
            obtain ⟨start, item, after, spells, meaning⟩ := first.sound one
            refine ⟨gap, start, item, demandColon_eq_ok.mp colon, after, spells, ?_⟩
            intro given row settled
            obtain ⟨value, row⟩ := row
            obtain ⟨⟨rfl, none⟩, rest⟩ := settled
            exact ⟨(Member.settles_own own).mpr ⟨rfl, meaning, none⟩,
              (settled_unknown (knows_apart apart own)).mpr rest⟩
      · simp only [Slots.fill, if_neg own] at fills
        obtain ⟨⟨further, last⟩, rest, fills⟩ := bind_eq_ok.mp fills
        cases fills
        rw [knows_cons, Bool.eq_false_iff.mpr own, Bool.false_or] at known
        obtain ⟨gap, start, item, before, after, spells, settles⟩ :=
          inductionHypothesis others (List.pairwise_cons.mp apart).2 known rest
        refine ⟨gap, start, item, before, after, spells, ?_⟩
        intro given row settled
        obtain ⟨value, row⟩ := row
        exact ⟨(Member.settles_other (Bool.eq_false_iff.mpr own)).mpr settled.1,
          settles settled.2⟩

/-- A member that is given first and leaves the row settled fills a slot. -/
theorem fill_eq_ok (read : senses.Read) (apart : AreApart members)
    (known : knows members key = true) {left gap start next : List Char}
    (before : Blanks left (':' :: gap)) (after : Blanks gap start) (spells : Spells start item next)
    (delimited : Delimited next)
    (settled : Settled members senses slots ((key, item) :: given) row) :
    ∃ filled, Slots.fill key members slots left = .ok (filled, next) ∧
      Settled members senses filled given row := by
  induction members with
  | nil => simp [knows] at known
  | cons member members inductionHypothesis =>
      obtain ⟨sense, senses⟩ := senses
      obtain ⟨slot, slots⟩ := slots
      obtain ⟨value, row⟩ := row
      obtain ⟨first, others⟩ := read
      obtain ⟨here, there⟩ := settled
      by_cases own : member.answersTo key = true
      · obtain ⟨rfl, meaning, none⟩ := (Member.settles_own own).mp here
        have colon := demandColon_eq_ok.mpr before
        have one := first.complete after spells delimited meaning
        refine ⟨(some value, slots), by simp [Slots.fill, own, colon, one, bind, Except.bind], ?_⟩
        exact ⟨⟨rfl, none⟩, (settled_unknown (knows_apart apart own)).mp there⟩
      · rw [knows_cons, Bool.eq_false_iff.mpr own, Bool.false_or] at known
        obtain ⟨filled, fills, rest⟩ :=
          inductionHypothesis others (List.pairwise_cons.mp apart).2 known there
        refine ⟨(slot, filled), by simp [Slots.fill, own, fills, bind, Except.bind], ?_⟩
        exact ⟨(Member.settles_other (Bool.eq_false_iff.mpr own)).mp here, rest⟩

end Slots

section Keys

variable {left : List Char} {first : Bool}

theorem nextKey_sound {key? : Option String} {next : List Char}
    (reads : nextKey first left = .ok (key?, next)) :
    (key? = none ∧ Blanks left ('\x7d' :: next)) ∨
      ∃ key label, key? = some key ∧ Begins first left ('"' :: label) ∧
        Letters label (Units.encode key) next := by
  unfold nextKey at reads
  split at reads
  · simp [refuse] at reads
  · next c behind skipped =>
    have blanks := blanks_of_skip skipped
    split at reads
    · next same =>
      cases reads
      exact .inl ⟨rfl, same ▸ blanks⟩
    split at reads
    · next isFirst =>
      subst isFirst
      split at reads
      · next quote =>
        obtain ⟨⟨key, last⟩, text, reads⟩ := bind_eq_ok.mp reads
        cases reads
        exact .inr ⟨key, behind, rfl, .first (quote ▸ blanks), readText_eq_ok.mp text⟩
      · simp [refuseNext] at reads
    split at reads
    · next further comma =>
      obtain rfl : first = false := by simpa using further
      split at reads
      · simp [refuse] at reads
      · next d others beyond =>
        split at reads
        · next quote =>
          obtain ⟨⟨key, last⟩, text, reads⟩ := bind_eq_ok.mp reads
          cases reads
          exact .inr ⟨key, others, rfl,
            .further (comma ▸ blanks) (quote ▸ blanks_of_skip beyond), readText_eq_ok.mp text⟩
        · split at reads <;> simp [refuseNext] at reads
    · simp [refuseNext] at reads

theorem nextKey_closed {rest : List Char} (blanks : Blanks left ('\x7d' :: rest)) :
    nextKey first left = .ok (none, rest) := by
  simp [nextKey, blanks.stop (by decide)]

theorem nextKey_begins {key : String} {label next : List Char}
    (begins : Begins first left ('"' :: label)) (named : Letters label (Units.encode key) next) :
    nextKey first left = .ok (some key, next) := by
  have text := readText_eq_ok.mpr named
  cases begins with
  | first blanks => simp [nextKey, blanks.stop (by decide), text, bind, Except.bind]
  | further before after =>
      simp [nextKey, before.stop (by decide), after.stop (by decide), text, bind, Except.bind]

end Keys

section Objects

variable {members : List Member} {senses : Senses members} {slots : Slots members}
  {row : Row members}

theorem readMembers_sound (read : senses.Read) (apart : AreApart members) {fuel : Nat}
    {first : Bool} {left rest : List Char}
    (reads : readMembers members fuel first slots left = .ok (row, rest)) :
    ∃ given, Members first left (encodeKeys given) rest ∧
      Settled members senses slots given row := by
  induction fuel generalizing first slots left with
  | zero => simp [readMembers, refuse] at reads
  | succ fuel inductionHypothesis =>
      obtain ⟨⟨key?, next⟩, looks, reads⟩ := bind_eq_ok.mp reads
      rcases nextKey_sound looks with ⟨rfl, blanks⟩ | ⟨key, label, rfl, begins, named⟩
      · obtain ⟨found, complete, reads⟩ := bind_eq_ok.mp reads
        cases reads
        exact ⟨[], .close blanks, complete_eq_ok.mp complete⟩
      · simp only at reads
        split at reads
        · next known =>
          obtain ⟨⟨filled, behind⟩, fills, reads⟩ := bind_eq_ok.mp reads
          obtain ⟨gap, start, item, before, after, spells, settles⟩ :=
            fill_sound read apart known fills
          obtain ⟨given, inside, settled⟩ := inductionHypothesis reads
          exact ⟨(key, item) :: given, .member begins named before after spells inside,
            settles settled⟩
        · next unknown =>
          obtain ⟨gap, colon, reads⟩ := bind_eq_ok.mp reads
          obtain ⟨behind, skips, reads⟩ := bind_eq_ok.mp reads
          obtain ⟨start, item, after, spells⟩ := skipValue_sound skips
          obtain ⟨given, inside, settled⟩ := inductionHypothesis reads
          exact ⟨(key, item) :: given,
            .member begins named (demandColon_eq_ok.mp colon) after spells inside,
            (settled_unknown (Bool.eq_false_iff.mpr unknown)).mpr settled⟩

theorem readMembers_eq_ok (read : senses.Read) (apart : AreApart members)
    {given : List (String × Value)} (settled : Settled members senses slots given row)
    (fuel : Nat) {first : Bool} {left rest : List Char}
    (inside : Members first left (encodeKeys given) rest) (enough : left.length < fuel) :
    readMembers members fuel first slots left = .ok (row, rest) := by
  induction given generalizing fuel first slots left with
  | nil =>
      obtain ⟨fuel, rfl⟩ : ∃ more, fuel = more + 1 := Nat.exists_eq_succ_of_ne_zero (by omega)
      cases inside with
      | close blanks =>
          simp [readMembers, nextKey_closed blanks, complete_eq_ok.mpr settled, bind, Except.bind]
  | cons other given inductionHypothesis =>
      obtain ⟨key, item⟩ := other
      obtain ⟨fuel, rfl⟩ : ∃ more, fuel = more + 1 := Nat.exists_eq_succ_of_ne_zero (by omega)
      cases inside with
      | member begins named before after spells inside =>
          have shorter := begins.length_le
          have label := named.length_lt
          have colon := before.length_le
          have gap := after.length_le
          have further := spells.length_lt
          simp only [List.length_cons] at shorter colon
          by_cases known : knows members key = true
          · obtain ⟨filled, fills, settled⟩ :=
              fill_eq_ok read apart known before after spells inside.delimited settled
            have others := inductionHypothesis settled fuel inside (by omega)
            simp [readMembers, nextKey_begins begins named, known, fills, others, bind, Except.bind]
          · have unknown : knows members key = false := Bool.eq_false_iff.mpr known
            have others := inductionHypothesis ((settled_unknown unknown).mp settled) fuel inside
              (by omega)
            simp [readMembers, nextKey_begins begins named, unknown, demandColon_eq_ok.mpr before,
              spells.skipValue_eq after inside.delimited, others, bind, Except.bind]

end Objects

/-- A record is read in its sense. -/
theorem Reads.record {α : Type} (shape : Shape α) {senses : Senses shape.members}
    (read : senses.Read) (apart : AreApart shape.members) :
    Reads shape.read (shape.Sense senses) where
  sound := by
    intro left rest result reads
    unfold Shape.read at reads
    split at reads
    · next behind skipped =>
      obtain ⟨⟨row, middle⟩, list, reads⟩ := bind_eq_ok.mp reads
      obtain ⟨last, ends, reads⟩ := bind_eq_ok.mp reads
      cases reads
      obtain ⟨items, inside, listed⟩ := readRow_sound read list ends
      exact ⟨_, _, blanks_of_skip skipped, .list (by simpa using inside), row, rfl,
        .inl ⟨items, rfl, listed⟩⟩
    · next behind skipped =>
      obtain ⟨⟨row, middle⟩, object, reads⟩ := bind_eq_ok.mp reads
      cases reads
      obtain ⟨given, inside, settled⟩ := readMembers_sound read apart object
      exact ⟨_, _, blanks_of_skip skipped, .object inside, row, rfl, .inr ⟨given, rfl, settled⟩⟩
    · exact absurd reads (refuseType_error _ _ _)
  complete := by
    rintro left start rest value result blanks spells delimited
      ⟨row, rfl, ⟨items, rfl, listed⟩ | ⟨given, rfl, settled⟩⟩
    · cases spells with
      | list inside =>
          obtain ⟨behind, reads, ends⟩ := Items.readRow_eq read shape.extent 0
            (by simpa using inside) listed
          simp [Shape.read, blanks.stop (by decide), reads, ends, bind, Except.bind]
    · cases spells with
      | object inside =>
          have reads := readMembers_eq_ok read apart settled _ inside (Nat.lt_succ_self _)
          simp [Shape.read, blanks.stop (by decide), reads, bind, Except.bind]

end Storefront.Json
