import Retouch.Json.Schema
import Retouch.Proofs.Text.Letters

/-!
What is written for a value: for each kind of value the nodes that stand for it, and the nodes that
stand for none. A vocabulary is written by any of its names, in any case of the letters and with
blanks around it.
-/
namespace Retouch

namespace Text

/-- The text is a name but for the case of its letters and the blanks around it. -/
def Spells (text name : String) : Prop :=
  ∃ before word after, text.toList = before ++ word ++ after ∧
    (∀ c ∈ before, isBlank c = true) ∧ (∀ c ∈ after, isBlank c = true) ∧
    word.map Char.toLower = name.toList

theorem spells_iff {text name : String} (filled : ∀ c ∈ name.toList, isBlank c = false) :
    Spells text name ↔ lowercase (trim text) = name := by
  constructor
  · rintro ⟨before, word, after, whole, front, back, lowered⟩
    have solid (c : Char) (member : c ∈ word) : isBlank c = false := by
      rw [← isBlank_toLower]
      exact filled _ (lowered ▸ List.mem_map_of_mem member)
    apply String.toList_injective
    rw [toList_lowercase, toList_trim, whole, trimChars_between front solid back, lowered]
  · rintro rfl
    obtain ⟨before, after, whole, front, back⟩ := exists_trimmed text.toList
    exact ⟨before, _, after, whole, front, back, by simp⟩

end Text

theorem lookup_iff_mem {α : Type} {keys : List (String × α)} (apart : (keys.map (·.1)).Nodup)
    {name : String} {value : α} : keys.lookup name = some value ↔ (name, value) ∈ keys := by
  induction keys with
  | nil => simp
  | cons head rest ih =>
    obtain ⟨key, first⟩ := head
    obtain ⟨absent, apart⟩ := List.nodup_cons.1 apart
    by_cases same : name = key
    · subst same
      have later : (name, value) ∉ rest := fun there =>
        absent (List.mem_map.2 ⟨_, there, rfl⟩)
      simp [later, eq_comm]
    · simp [List.lookup_cons, same, beq_eq_false_iff_ne.2 same, ih apart]

theorem choose_ok {α : Type} {keys : List (String × α)} {kind : Unsupported} {text : String}
    {value : α} (apart : (keys.map (·.1)).Nodup)
    (filled : (keys.all fun pair => pair.1.toList.all (!Text.isBlank ·)) = true) :
    choose keys kind text = .ok value ↔ ∃ name, (name, value) ∈ keys ∧ Text.Spells text name := by
  have chosen : choose keys kind text = .ok value ↔
      keys.lookup (Text.lowercase (Text.trim text)) = some value := by
    unfold choose
    cases keys.lookup (Text.lowercase (Text.trim text)) <;> simp
  have solid {name : String} (there : (name, value) ∈ keys) :
      ∀ c ∈ name.toList, Text.isBlank c = false := by
    simpa using List.all_eq_true.1 filled _ there
  rw [chosen, lookup_iff_mem apart]
  constructor
  · exact fun there => ⟨_, there, (Text.spells_iff (solid there)).2 rfl⟩
  · rintro ⟨name, there, spelled⟩
    rwa [(Text.spells_iff (solid there)).1 spelled]

def ResolutionUnit.names : ResolutionUnit → List String
  | perCentimeter => ["ppc", "pixelspercentimeter"]
  | perInch => ["ppi", "pixelsperinch"]

theorem ResolutionUnit.parse_ok {text : String} {unit : ResolutionUnit} :
    parse text = .ok unit ↔ ∃ name ∈ unit.names, Text.Spells text name := by
  rw [parse, choose_ok (by decide +kernel) (by decide +kernel)]
  cases unit <;> simp [names]

theorem Filter.parse_ok {text : String} {filter : Filter} :
    parse text = .ok filter ↔ Text.Spells text filter.key := by
  rw [parse, choose_ok (by decide +kernel) (by decide +kernel)]
  have listed : filter ∈ all := by cases filter <;> decide
  simp [listed]

namespace Json

inductive Kind
  | text
  | word
  | integer
  | flag
  | unit
  | filter

namespace Kind

abbrev Carrier : Kind → Type
  | text => String
  | word => UInt32
  | integer => Int32
  | flag => Bool
  | unit => ResolutionUnit
  | filter => Filter

def read : (kind : Kind) → Reader kind.Carrier
  | text => Json.text
  | word => word32
  | integer => integer32
  | flag => boolean
  | unit => resolutionUnit
  | filter => Json.filter

/-- The node is a way to write the value. -/
def Stands : (kind : Kind) → kind.Carrier → Node → Prop
  | text, value, node => node = .text value
  | word, value, node => node = .integer value.toNat
  | integer, value, node => node = .integer value.toInt
  | flag, value, node => node = .boolean value
  | unit, value, node => ∃ text, node = .text text ∧ ∃ name ∈ value.names, Text.Spells text name
  | filter, value, node => ∃ text, node = .text text ∧ Text.Spells text value.key

/-- Nodes of the type that values of the kind have. -/
def Form : Kind → Node → Prop
  | text, node | unit, node | filter, node => ∃ text, node = .text text
  | word, node | integer, node => ∃ number, node = .integer number
  | flag, node => ∃ value, node = .boolean value

/-- A node of another type, a number out of range, or a text that is no name. -/
inductive Misfit : Kind → Node → Prop
  | form {kind : Kind} {node : Node} (other : ¬kind.Form node) : Misfit kind node
  | word {number : Int} (outside : number < 0 ∨ 0xFFFFFFFF < number) :
      Misfit word (.integer number)
  | integer {number : Int} (outside : number < -0x80000000 ∨ 0x7FFFFFFF < number) :
      Misfit integer (.integer number)
  | unit {text : String}
      (unknown : ∀ unit : ResolutionUnit, ∀ name ∈ unit.names, ¬Text.Spells text name) :
      Misfit unit (.text text)
  | filter {text : String} (unknown : ∀ filter : Filter, ¬Text.Spells text filter.key) :
      Misfit filter (.text text)

theorem integerIn_ok {least greatest value : Int} {node : Node} :
    integerIn least greatest node = .ok value ↔
      node = .integer value ∧ least ≤ value ∧ value ≤ greatest := by
  cases node with
  | integer number =>
    by_cases inside : least ≤ number ∧ number ≤ greatest
    · simp only [integerIn, inside, decide_true, Bool.and_self, if_true, Except.ok.injEq,
        Node.integer.injEq]
      exact ⟨fun same => ⟨same, same ▸ inside⟩, And.left⟩
    · have refused : (decide (least ≤ number) && decide (number ≤ greatest)) = false := by
        simpa using inside
      simp only [integerIn, refused, Bool.false_eq_true, if_false, reduceCtorEq, false_iff,
        Node.integer.injEq]
      rintro ⟨rfl, within⟩
      exact inside within
  | _ => simp [integerIn]

theorem toNat_ofNat {number : Int} (least : 0 ≤ number) (greatest : number ≤ 0xFFFFFFFF) :
    ((UInt32.ofNat number.toNat).toNat : Int) = number := by
  simp only [UInt32.toNat_ofNat']
  omega

theorem toInt_ofInt {number : Int} (least : -0x80000000 ≤ number)
    (greatest : number ≤ 0x7FFFFFFF) : (Int32.ofInt number).toInt = number :=
  Int32.toInt_ofInt_of_le least (by omega)

theorem word_ok {node : Node} {value : UInt32} :
    word32 node = .ok value ↔ node = .integer value.toNat := by
  unfold word32
  constructor
  · intro read
    cases found : integerIn 0 0xFFFFFFFF node with
    | error fault => simp [found, Except.map] at read
    | ok number =>
      obtain ⟨rfl, least, greatest⟩ := integerIn_ok.1 found
      simp only [found, Except.map, Except.ok.injEq] at read
      subst read
      rw [toNat_ofNat least greatest]
  · rintro rfl
    have small := value.toNat_lt
    rw [integerIn_ok.2 ⟨rfl, by omega, by omega⟩]
    simp [Except.map]

theorem integer_ok {node : Node} {value : Int32} :
    integer32 node = .ok value ↔ node = .integer value.toInt := by
  unfold integer32
  constructor
  · intro read
    cases found : integerIn (-0x80000000) 0x7FFFFFFF node with
    | error fault => simp [found, Except.map] at read
    | ok number =>
      obtain ⟨rfl, least, greatest⟩ := integerIn_ok.1 found
      simp only [found, Except.map, Except.ok.injEq] at read
      subst read
      rw [toInt_ofInt least greatest]
  · rintro rfl
    have least := value.le_toInt
    have greatest := value.toInt_lt
    rw [integerIn_ok.2 ⟨rfl, by omega, by omega⟩]
    simp [Except.map]

theorem named_ok {α : Type} {parse : String → Except Cause α} {node : Node} {value : α} :
    named parse node = .ok value ↔ ∃ text, node = .text text ∧ parse text = .ok value := by
  cases node <;> simp only [named, Json.text, bind, Except.bind, reduceCtorEq, false_and,
    exists_false, Node.text.injEq, exists_eq_left']
  next text => cases parse text <;> simp

theorem read_ok (kind : Kind) {node : Node} {value : kind.Carrier} :
    kind.read node = .ok value ↔ kind.Stands value node := by
  cases kind with
  | text => cases node <;> simp [read, Json.text, Stands]
  | flag => cases node <;> simp [read, boolean, Stands]
  | word => exact word_ok
  | integer => exact integer_ok
  | unit => simp only [read, resolutionUnit, named_ok, ResolutionUnit.parse_ok, Stands]
  | filter => simp only [read, Json.filter, named_ok, Filter.parse_ok, Stands]

theorem Stands.form {kind : Kind} {value : kind.Carrier} {node : Node}
    (stands : kind.Stands value node) : kind.Form node := by
  cases kind with
  | unit | filter =>
    obtain ⟨text, written, -⟩ := stands
    exact ⟨text, written⟩
  | _ => exact ⟨_, stands⟩

theorem not_stands_null {kind : Kind} {value : kind.Carrier} : ¬kind.Stands value .null := by
  intro stands
  have form := stands.form
  cases kind <;> obtain ⟨_, written⟩ := form <;> cases written

theorem misfit_iff {kind : Kind} {node : Node} :
    kind.Misfit node ↔ ∀ value, ¬kind.Stands value node := by
  constructor
  · intro misfit value stands
    cases misfit with
    | form other => exact other stands.form
    | word outside =>
      have small := UInt32.toNat_lt value
      obtain rfl := Node.integer.inj stands
      omega
    | integer outside =>
      have least := Int32.le_toInt value
      have greatest := Int32.toInt_lt value
      obtain rfl := Node.integer.inj stands
      omega
    | unit unknown =>
      obtain ⟨text, written, name, known, spelled⟩ := stands
      obtain rfl := Node.text.inj written
      exact unknown value name known spelled
    | filter unknown =>
      obtain ⟨text, written, spelled⟩ := stands
      obtain rfl := Node.text.inj written
      exact unknown value spelled
  · intro nothing
    by_cases form : kind.Form node
    · cases kind with
      | text | flag =>
        obtain ⟨value, rfl⟩ := form
        exact absurd rfl (nothing value)
      | word =>
        obtain ⟨number, rfl⟩ := form
        refine .word ?_
        by_contra inside
        exact nothing _ (congrArg Node.integer (toNat_ofNat (by omega) (by omega)).symm)
      | integer =>
        obtain ⟨number, rfl⟩ := form
        refine .integer ?_
        by_contra inside
        exact nothing _ (congrArg Node.integer (toInt_ofInt (by omega) (by omega)).symm)
      | unit =>
        obtain ⟨text, rfl⟩ := form
        exact .unit fun unit name known spelled => nothing unit ⟨text, rfl, name, known, spelled⟩
      | filter =>
        obtain ⟨text, rfl⟩ := form
        exact .filter fun filter spelled => nothing filter ⟨text, rfl, spelled⟩
    · exact .form form

end Kind

/-- What a field holds: a value, or one that may be missing and is null then. -/
inductive Slot
  | plain (kind : Kind)
  | orNull (kind : Kind)

namespace Slot

abbrev Carrier : Slot → Type
  | plain kind => kind.Carrier
  | orNull kind => Option kind.Carrier

def read : (slot : Slot) → Reader slot.Carrier
  | plain kind => kind.read
  | orNull kind => optional kind.read

def Stands : (slot : Slot) → slot.Carrier → Node → Prop
  | plain kind, value, node => kind.Stands value node
  | orNull _, none, node => node = .null
  | orNull kind, some value, node => kind.Stands value node

def Misfit : Slot → Node → Prop
  | plain kind, node => kind.Misfit node
  | orNull kind, node => node ≠ .null ∧ kind.Misfit node

theorem optional_given {α : Type} {read : Reader α} {node : Node} (given : node ≠ .null) :
    optional read node = (read node).map some := by
  cases node <;> first | rfl | exact absurd rfl given

theorem read_ok (slot : Slot) {node : Node} {value : slot.Carrier} :
    slot.read node = .ok value ↔ slot.Stands value node := by
  cases slot with
  | plain kind => exact kind.read_ok
  | orNull kind =>
    by_cases blank : node = .null
    · subst blank
      cases value with
      | none => simp [read, optional, Stands]
      | some value => simp [read, optional, Stands, Kind.not_stands_null]
    · rw [read, optional_given blank]
      cases value with
      | none => cases kind.read node <;> simp [Except.map, Stands, blank]
      | some value =>
        rw [Stands, ← kind.read_ok]
        cases kind.read node <;> simp [Except.map]

theorem misfit_iff {slot : Slot} {node : Node} :
    slot.Misfit node ↔ ∀ value, ¬slot.Stands value node := by
  cases slot with
  | plain kind => exact Kind.misfit_iff
  | orNull kind =>
    simp only [Misfit, Kind.misfit_iff, Stands]
    constructor
    · rintro ⟨filled, nothing⟩ (_ | value)
      · exact filled
      · exact nothing value
    · exact fun nothing => ⟨nothing none, fun value => nothing (some value)⟩

end Slot

end Json

end Retouch
