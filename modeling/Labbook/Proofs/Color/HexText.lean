import Labbook.Color.Rgb
import Labbook.Proofs.Outcome
import Mathlib.Tactic.Common

namespace Labbook

namespace Rgb

def Denotes (c : Char) (n : Nat) : Prop :=
  "0123456789abcdef".toList[n]? = some c ∨ "0123456789ABCDEF".toList[n]? = some c

instance (c : Char) (n : Nat) : Decidable (Denotes c n) := inferInstanceAs (Decidable (_ ∨ _))

theorem ascii_digits : ∀ code < 128, ∀ n < 16,
    hexDigit (Char.ofNat code) = some n ↔ Denotes (Char.ofNat code) n := by
  decide +kernel

theorem hexDigit_ascii {c : Char} {n : Nat} (read : hexDigit c = some n) : c.toNat < 128 ∧ n < 16 := by
  have codes : '0'.toNat = 48 ∧ '9'.toNat = 57 ∧ 'a'.toNat = 97 ∧ 'f'.toNat = 102 ∧ 'A'.toNat = 65 ∧
    'F'.toNat = 70 := by decide
  have le : ∀ {a b : Char}, a ≤ b → a.toNat ≤ b.toNat := fun ordered => ordered
  unfold hexDigit at read
  split at read
  · rename_i range
    have := le range.1
    have := le range.2
    cases read
    omega
  · split at read
    · rename_i range
      have := le range.1
      have := le range.2
      cases read
      omega
    · split at read
      · rename_i range
        have := le range.1
        have := le range.2
        cases read
        omega
      · cases read

theorem ascii_of_denotes {c : Char} {n : Nat} (digit : Denotes c n) : c.toNat < 128 ∧ n < 16 := by
  have low : ("0123456789abcdef".toList.all fun c => c.toNat < 128) = true := by decide
  have high : ("0123456789ABCDEF".toList.all fun c => c.toNat < 128) = true := by decide
  have ascii {cs : List Char} (all : (cs.all fun c => c.toNat < 128) = true) {d : Char} (member : d ∈ cs) :
      d.toNat < 128 := of_decide_eq_true (List.all_eq_true.mp all d member)
  rcases digit with digit | digit
  · exact ⟨ascii low (List.mem_of_getElem? digit), (List.getElem?_eq_some_iff.mp digit).1⟩
  · exact ⟨ascii high (List.mem_of_getElem? digit), (List.getElem?_eq_some_iff.mp digit).1⟩

theorem hexDigit_eq_some_iff {c : Char} {n : Nat} : hexDigit c = some n ↔ Denotes c n := by
  have small : c.toNat < 128 → n < 16 → (hexDigit c = some n ↔ Denotes c n) := by
    intro code number
    have digits := ascii_digits c.toNat code n number
    rwa [Char.ofNat_toNat] at digits
  constructor
  · intro read
    obtain ⟨code, number⟩ := hexDigit_ascii read
    exact (small code number).mp read
  · intro digit
    obtain ⟨code, number⟩ := ascii_of_denotes digit
    exact (small code number).mpr digit

theorem hexDigit_plus : hexDigit '+' = none := rfl

theorem not_denotes_plus (n : Nat) : ¬Denotes '+' n := fun digit => by
  rw [← hexDigit_eq_some_iff, hexDigit_plus] at digit
  cases digit

theorem utf8Size_of_ascii {c : Char} (code : c.toNat < 128) : c.utf8Size = 1 := by
  rw [Char.utf8Size_eq_one_iff, UInt32.le_iff_toNat_le]
  exact Nat.le_of_lt_succ code

-- A channel is two digits, or a plus sign and a digit.
theorem channel_eq_some_iff {a b : Char} {value : UInt8} : channel a b = some value ↔
    ∃ high low, (a = '+' ∧ high = 0 ∨ Denotes a high) ∧ Denotes b low ∧
      UInt8.ofNat (16 * high + low) = value := by
  unfold channel
  split
  · rename_i plus
    subst plus
    simp [hexDigit_plus, ← hexDigit_eq_some_iff, Option.bind_eq_some_iff]
  · rename_i notPlus
    simp [notPlus, ← hexDigit_eq_some_iff, Option.bind_eq_some_iff]

theorem channel_sizes {a b : Char} {value : UInt8} (read : channel a b = some value) :
    a.utf8Size = 1 ∧ b.utf8Size = 1 := by
  obtain ⟨high, low, first, second, -⟩ := channel_eq_some_iff.mp read
  refine ⟨?_, utf8Size_of_ascii (ascii_of_denotes second).1⟩
  rcases first with ⟨rfl, -⟩ | digit
  · rfl
  · exact utf8Size_of_ascii (ascii_of_denotes digit).1

-- The text falls into channels.
inductive Channels : List Char → List UInt8 → Prop where
  | nil : Channels [] []
  | cons {a b : Char} {rest : List Char} {value : UInt8} {values : List UInt8}
      (read : channel a b = some value) (others : Channels rest values) :
      Channels (a :: b :: rest) (value :: values)

-- A channel would end inside a character: the first one, or one that only channels stand before.
inductive Cut : List Char → Prop where
  | wide {a : Char} {rest : List Char} (bytes : 2 < a.utf8Size) : Cut (a :: rest)
  | second {a b : Char} {rest : List Char} (one : a.utf8Size = 1) (more : 1 < b.utf8Size) :
      Cut (a :: b :: rest)
  | later {a b : Char} {rest : List Char} {value : UInt8} (read : channel a b = some value)
      (cut : Cut rest) : Cut (a :: b :: rest)

section
variable {a b : Char} {rest : List Char} {value : UInt8}

theorem cut_behind (read : channel a b = some value) : Cut (a :: b :: rest) ↔ Cut rest := by
  obtain ⟨first, second⟩ := channel_sizes read
  refine ⟨fun cut => ?_, .later read⟩
  cases cut with
  | wide bytes => omega
  | second one more => omega
  | later again cut => exact cut

theorem channels_behind (read : channel a b = some value) {first : UInt8} {values : List UInt8} :
    Channels (a :: b :: rest) (first :: values) ↔ first = value ∧ Channels rest values := by
  constructor
  · intro all
    cases all with
    | cons again others =>
      rw [read] at again
      exact ⟨(Option.some.inj again).symm, others⟩
  · rintro ⟨rfl, others⟩
    exact .cons read others

theorem Channels.uncut {cs : List Char} {values : List UInt8} (all : Channels cs values) :
    ¬Cut cs := by
  induction all with
  | nil => exact nofun
  | cons read others ih => rwa [cut_behind read]

end

inductive Taken (text : String) : List Char → Outcome (UInt8 × List Char) → Prop where
  | channel {a b : Char} {rest : List Char} {value : UInt8} (read : channel a b = some value) :
      Taken text (a :: b :: rest) (.ok (value, rest))
  | invalid {cs : List Char} (uncut : ¬Cut cs)
      (unread : ∀ value values, ¬Channels cs (value :: values)) :
      Taken text cs (.error (.invalidColor text))
  | cut {cs : List Char} (cut : Cut cs) : Taken text cs (.error (.colorCut text))

theorem takeChannel_taken (text : String) (cs : List Char) :
    Taken text cs (takeChannel text cs) := by
  unfold takeChannel
  split
  · refine .invalid (fun cut => ?_) fun _ _ all => ?_
    · cases cut
    · cases all
  · rename_i a rest
    split
    · rename_i one
      split
      · refine .invalid (fun cut => ?_) fun _ _ all => ?_
        · cases cut with
          | wide bytes => omega
        · cases all
      · rename_i b rest
        split
        · rename_i other
          split
          · rename_i value read
            exact .channel read
          · rename_i unread
            refine .invalid (fun cut => ?_) fun _ _ all => ?_
            · cases cut with
              | wide bytes => omega
              | second _ more => omega
              | later read _ => rw [unread] at read; cases read
            · cases all with
              | cons read _ => rw [unread] at read; cases read
        · rename_i several
          have size := b.utf8Size_pos
          exact .cut (.second one (by omega))
    · rename_i several
      split
      · rename_i two
        refine .invalid (fun cut => ?_) fun _ _ all => ?_
        · cases cut with
          | wide bytes => omega
          | second one _ => omega
          | later read _ => exact several (channel_sizes read).1
        · cases all with
          | cons read _ => exact several (channel_sizes read).1
      · have size := a.utf8Size_pos
        exact .cut (.wide (by omega))

def byteCount (cs : List Char) : Nat := (String.ofList cs).utf8ByteSize

theorem byteCount_cons (c : Char) (cs : List Char) :
    byteCount (c :: cs) = c.utf8Size + byteCount cs := by
  unfold byteCount
  rw [String.ofList_cons, String.utf8ByteSize_append, String.utf8ByteSize_singleton]

theorem byteCount_eq_zero {cs : List Char} : byteCount cs = 0 ↔ cs = [] := by
  cases cs with
  | nil => simp [byteCount]
  | cons c cs =>
    have size := c.utf8Size_pos
    rw [byteCount_cons]
    simp
    omega

def body (text : String) : List Char := (trimBlanks text.toList).dropWhile (· = '#')

theorem read_eq (text : String) : read text =
    if byteCount (body text) ≠ 6 then .error (.invalidColor text)
    else do
      let (red, rest) ← takeChannel text (body text)
      let (green, rest) ← takeChannel text rest
      let (blue, _) ← takeChannel text rest
      return ⟨red, green, blue⟩ := by
  by_cases six : byteCount (body text) ≠ 6
  · rw [if_pos six]
    exact if_pos six
  · rw [if_neg six]
    exact if_neg six

theorem read_six {text : String} (six : byteCount (body text) = 6) :
    (∃ red green blue, Channels (body text) [red, green, blue] ∧
      read text = .ok ⟨red, green, blue⟩) ∨
    (read text = .error (.invalidColor text) ∧ ¬Cut (body text) ∧
      ∀ red green blue, ¬Channels (body text) [red, green, blue]) ∨
    (read text = .error (.colorCut text) ∧ Cut (body text)) := by
  rw [read_eq, if_neg (not_not.mpr six)]
  generalize body text = cs at six
  have first := takeChannel_taken text cs
  generalize takeChannel text cs = taken at first
  cases first with
  | invalid uncut none => exact .inr (.inl ⟨rfl, uncut, fun red _ _ => none red _⟩)
  | cut cut => exact .inr (.inr ⟨rfl, cut⟩)
  | @channel a b rest red readRed =>
    rw [cut_behind readRed]
    simp only [channels_behind readRed, bind, Except.bind]
    have second := takeChannel_taken text rest
    generalize takeChannel text rest = taken at second
    cases second with
    | invalid uncut none => exact .inr (.inl ⟨rfl, uncut, fun _ green _ all => none green _ all.2⟩)
    | cut cut => exact .inr (.inr ⟨rfl, cut⟩)
    | @channel c d rest green readGreen =>
      rw [cut_behind readGreen]
      simp only [channels_behind readGreen]
      have third := takeChannel_taken text rest
      generalize takeChannel text rest = taken at third
      cases third with
      | invalid uncut none => exact .inr (.inl ⟨rfl, uncut, fun _ _ blue all => none blue _ all.2.2⟩)
      | cut cut => exact .inr (.inr ⟨rfl, cut⟩)
      | @channel e f rest blue readBlue =>
        -- Three channels are six bytes, so nothing is left.
        simp only [byteCount_cons, channel_sizes readRed, channel_sizes readGreen,
          channel_sizes readBlue] at six
        obtain rfl := byteCount_eq_zero.mp (show byteCount rest = 0 by omega)
        exact .inl ⟨red, green, blue, ⟨rfl, rfl, .cons readBlue .nil⟩, rfl⟩

theorem Channels.unique {cs : List Char} {values others : List UInt8} (one : Channels cs values)
    (other : Channels cs others) : values = others := by
  induction one generalizing others with
  | nil =>
    cases other
    rfl
  | cons read rest ih =>
    cases other with
    | cons again more =>
      rw [read] at again
      cases again
      rw [ih more]

theorem Channels.byteCount {cs : List Char} {values : List UInt8} (all : Channels cs values) :
    byteCount cs = 2 * values.length := by
  induction all with
  | nil => rfl
  | cons read others ih =>
    obtain ⟨first, second⟩ := channel_sizes read
    rw [byteCount_cons, byteCount_cons, first, second, ih, List.length_cons]
    omega

-- Six hexadecimal digits, two for each channel.
inductive Spells : List Char → Rgb → Prop where
  | digits {a b c d e f : Char} {r₁ r₀ g₁ g₀ b₁ b₀ : Nat} (redHigh : Denotes a r₁)
      (redLow : Denotes b r₀) (greenHigh : Denotes c g₁) (greenLow : Denotes d g₀)
      (blueHigh : Denotes e b₁) (blueLow : Denotes f b₀) :
      Spells [a, b, c, d, e, f]
        ⟨UInt8.ofNat (16 * r₁ + r₀), UInt8.ofNat (16 * g₁ + g₀), UInt8.ofNat (16 * b₁ + b₀)⟩

-- What reading a text should come to: the colour that its digits spell, an invalid argument if they spell
-- none.
def AsDocumented (text : String) (outcome : Outcome Rgb) : Prop :=
  (∀ color, Spells (body text) color → outcome = .ok color) ∧
    ((∀ color, ¬Spells (body text) color) → outcome = .error (.invalidColor text))

theorem Spells.channels {cs : List Char} {color : Rgb} (spelled : Spells cs color) :
    Channels cs [color.red, color.green, color.blue] ∧ '+' ∉ cs := by
  cases spelled with
  | digits redHigh redLow greenHigh greenLow blueHigh blueLow =>
    have channel : ∀ {a b high low}, Denotes a high → Denotes b low →
        channel a b = some (UInt8.ofNat (16 * high + low)) := fun first second =>
      channel_eq_some_iff.mpr ⟨_, _, .inr first, second, rfl⟩
    have digit : ∀ {c n}, Denotes c n → '+' ≠ c := by
      rintro c n digit rfl
      exact not_denotes_plus n digit
    refine ⟨.cons (channel redHigh redLow) (.cons (channel greenHigh greenLow)
      (.cons (channel blueHigh blueLow) .nil)), ?_⟩
    simp only [List.mem_cons, List.not_mem_nil, or_false, not_or]
    exact ⟨digit redHigh, digit redLow, digit greenHigh, digit greenLow, digit blueHigh,
      digit blueLow⟩

theorem spells_of_channels {cs : List Char} {red green blue : UInt8}
    (all : Channels cs [red, green, blue]) (unsigned : '+' ∉ cs) :
    Spells cs ⟨red, green, blue⟩ := by
  have digits : ∀ {a b value}, a ≠ '+' → channel a b = some value →
      ∃ high low, Denotes a high ∧ Denotes b low ∧ UInt8.ofNat (16 * high + low) = value := by
    intro a b value plain read
    obtain ⟨high, low, first, second, same⟩ := channel_eq_some_iff.mp read
    exact ⟨high, low, first.resolve_left fun signed => plain signed.1, second, same⟩
  cases all with
  | cons readRed all =>
    cases all with
    | cons readGreen all =>
      cases all with
      | cons readBlue all =>
        cases all
        simp only [List.mem_cons, List.not_mem_nil, or_false, not_or] at unsigned
        obtain ⟨_, _, redHigh, redLow, rfl⟩ := digits (Ne.symm unsigned.1) readRed
        obtain ⟨_, _, greenHigh, greenLow, rfl⟩ := digits (Ne.symm unsigned.2.2.1) readGreen
        obtain ⟨_, _, blueHigh, blueLow, rfl⟩ := digits (Ne.symm unsigned.2.2.2.2.1) readBlue
        exact .digits redHigh redLow greenHigh greenLow blueHigh blueLow

-- Three channels, and some of them begin with a plus sign.
structure Signed (cs : List Char) (color : Rgb) : Prop where
  plus : '+' ∈ cs
  channels : Channels cs [color.red, color.green, color.blue]

structure CutInside (cs : List Char) : Prop where
  six : byteCount cs = 6
  cut : Cut cs

-- Everything that a colour text can come to.
inductive Reading (text : String) : Outcome Rgb → Prop where
  | spelled {color : Rgb} (digits : Spells (body text) color) : Reading text (.ok color)
  | signed {color : Rgb} (plus : Signed (body text) color) : Reading text (.ok color)
  | cut (inside : CutInside (body text)) : Reading text (.error (.colorCut text))
  | refused (unspelled : ∀ color, ¬Spells (body text) color)
      (unsigned : ∀ color, ¬Signed (body text) color) (uncut : ¬CutInside (body text)) :
      Reading text (.error (.invalidColor text))

theorem read_reading (text : String) : Reading text (read text) := by
  have refused : (∀ red green blue, ¬Channels (body text) [red, green, blue]) →
      ¬CutInside (body text) → Reading text (.error (.invalidColor text)) := fun unread =>
    .refused (fun _ spelled => unread _ _ _ spelled.channels.1) fun _ signed =>
      unread _ _ _ signed.channels
  by_cases six : byteCount (body text) = 6
  · rcases read_six six with ⟨red, green, blue, all, done⟩ | ⟨done, uncut, unread⟩ | ⟨done, cut⟩
    · rw [done]
      by_cases plus : '+' ∈ body text
      · exact .signed ⟨plus, all⟩
      · exact .spelled (spells_of_channels all plus)
    · rw [done]
      exact refused unread fun inside => uncut inside.cut
    · rw [done]
      exact .cut ⟨six, cut⟩
  · rw [read_eq, if_pos six]
    exact refused (fun red green blue all => six all.byteCount) fun inside => six inside.six

section
variable {text : String} {outcome : Outcome Rgb} {color : Rgb}

theorem Reading.of_channels (reading : Reading text outcome)
    (all : Channels (body text) [color.red, color.green, color.blue]) : outcome = .ok color := by
  have same : ∀ {other : Rgb}, Channels (body text) [other.red, other.green, other.blue] →
      other = color := fun {other} channels => by
    have values := channels.unique all
    cases other
    cases color
    simpa using values
  cases reading with
  | spelled digits => rw [same digits.channels.1]
  | signed plus => rw [same plus.channels]
  | cut inside => exact absurd inside.cut all.uncut
  | refused unspelled unsigned uncut =>
    by_cases plus : '+' ∈ body text
    · exact absurd ⟨plus, all⟩ (unsigned color)
    · exact absurd (spells_of_channels all plus) (unspelled color)

theorem Reading.of_cut (reading : Reading text outcome) (inside : CutInside (body text)) :
    outcome = .error (.colorCut text) := by
  cases reading with
  | spelled digits => exact absurd inside.cut digits.channels.1.uncut
  | signed plus => exact absurd inside.cut plus.channels.uncut
  | cut => rfl
  | refused _ _ uncut => exact absurd inside uncut

end

-- A colour text is read as documented but for a plus sign in the place of a digit and a cut character.
theorem read_asDocumented_iff (text : String) :
    (AsDocumented text (read text) ↔
        (∀ color, ¬Signed (body text) color) ∧ ¬CutInside (body text)) ∧
      (∀ color, Signed (body text) color → read text = .ok color) ∧
      (CutInside (body text) → read text = .error (.colorCut text)) := by
  have reading := read_reading text
  refine ⟨⟨fun documented => ⟨fun color signed => ?_, fun inside => ?_⟩, fun ⟨unsigned, uncut⟩ => ?_⟩,
    fun color signed => reading.of_channels signed.channels, reading.of_cut⟩
  · have refused := documented.2 fun other spelled => spelled.channels.2 signed.plus
    rw [reading.of_channels signed.channels] at refused
    cases refused
  · have refused := documented.2 fun other spelled => spelled.channels.1.uncut inside.cut
    rw [reading.of_cut inside] at refused
    cases refused
  · refine ⟨fun color spelled => reading.of_channels spelled.channels.1, fun unspelled => ?_⟩
    generalize read text = outcome at reading
    cases reading with
    | spelled digits => exact absurd digits (unspelled _)
    | signed plus => exact absurd plus (unsigned _)
    | cut inside => exact absurd inside uncut
    | refused => rfl

-- Neither of these texts spells a colour, and neither is refused.
theorem read_undocumented :
    read "+1+2+3" = .ok ⟨1, 2, 3⟩ ∧ ¬AsDocumented "+1+2+3" (read "+1+2+3") ∧
      read "aébcd" = .error (.colorCut "aébcd") ∧ ¬AsDocumented "aébcd" (read "aébcd") := by
  have signed : read "+1+2+3" = .ok ⟨1, 2, 3⟩ := rfl
  have cut : read "aébcd" = .error (.colorCut "aébcd") := rfl
  have letters : body "aébcd" = ['a', 'é', 'b', 'c', 'd'] := by decide
  refine ⟨signed, fun documented => ?_, cut, fun documented => ?_⟩
  · have refused := documented.2 fun color spelled => spelled.channels.2 (by decide)
    rw [signed] at refused
    cases refused
  · have inside : Cut (body "aébcd") := letters ▸ .second (by decide) (by decide)
    have refused := documented.2 fun color spelled => spelled.channels.1.uncut inside
    rw [cut] at refused
    cases refused

end Rgb

end Labbook
