import Retouch.Proofs.Json.Kinds
import Retouch.Proofs.Json.Layout

/-!
Save options as an object: which objects stand for which options, and which stand for none. The
order of the members is of no account, and nothing that is not understood is passed over.
-/
namespace Retouch.Json

inductive OptionKey
  | format
  | quality
  | jpegQuality
  | pngLevel
  | pngFilter
  | unit
  | resolutionX
  | resolutionY
  | resampling
  | animated
  | delay
  | loops
  | flatten
deriving DecidableEq

namespace OptionKey

def all : List OptionKey :=
  [format, quality, jpegQuality, pngLevel, pngFilter, unit, resolutionX, resolutionY, resampling,
    animated, delay, loops, flatten]

def name : OptionKey → String
  | format => "format"
  | quality => "quality"
  | jpegQuality => "jpeg_quality"
  | pngLevel => "png_compression_level"
  | pngFilter => "png_compression_filter"
  | unit => "resolution_units"
  | resolutionX => "resolution_x"
  | resolutionY => "resolution_y"
  | resampling => "resampling_filter"
  | animated => "animated"
  | delay => "animated.delay"
  | loops => "animated.loops"
  | flatten => "flatten"

/-- The four fields about the resolution may be written with hyphens. -/
def aliases : OptionKey → List String
  | unit => ["resolution-units"]
  | resolutionX => ["resolution-x"]
  | resolutionY => ["resolution-y"]
  | resampling => ["resampling-filter"]
  | _ => []

def names (key : OptionKey) : List String := key.name :: key.aliases

def slot : OptionKey → Slot
  | format => .orNull .text
  | quality | jpegQuality | resolutionX | resolutionY | delay | loops => .orNull .word
  | pngLevel | pngFilter => .orNull .integer
  | unit => .orNull .unit
  | resampling => .orNull .filter
  | animated => .plain .flag
  | flatten => .orNull .flag

def get : (key : OptionKey) → Save.Options → key.slot.Carrier
  | format, options => options.format
  | quality, options => options.quality
  | jpegQuality, options => options.jpegQuality
  | pngLevel, options => options.pngLevel
  | pngFilter, options => options.pngFilter
  | unit, options => options.unit
  | resolutionX, options => options.resolutionX
  | resolutionY, options => options.resolutionY
  | resampling, options => options.resampling
  | animated, options => options.animated
  | delay, options => options.delay
  | loops, options => options.loops
  | flatten, options => options.flatten

def put : (key : OptionKey) → key.slot.Carrier → Save.Options → Save.Options
  | format, value, options => { options with format := value }
  | quality, value, options => { options with quality := value }
  | jpegQuality, value, options => { options with jpegQuality := value }
  | pngLevel, value, options => { options with pngLevel := value }
  | pngFilter, value, options => { options with pngFilter := value }
  | unit, value, options => { options with unit := value }
  | resolutionX, value, options => { options with resolutionX := value }
  | resolutionY, value, options => { options with resolutionY := value }
  | resampling, value, options => { options with resampling := value }
  | animated, value, options => { options with animated := value }
  | delay, value, options => { options with delay := value }
  | loops, value, options => { options with loops := value }
  | flatten, value, options => { options with flatten := value }

def field (key : OptionKey) : Field Save.Options :=
  (Field.of key.name key.slot.read key.put).spelled key.aliases

theorem mem_all (key : OptionKey) : key ∈ all := by cases key <;> decide

theorem fields_eq : optionsRecord.fields = all.map field := rfl

theorem answersTo_iff {key : OptionKey} {name : String} :
    key.field.answersTo name = true ↔ name ∈ key.names := by
  change (key.name == name || key.aliases.contains name) = true ↔ _
  rw [names, List.mem_cons, Bool.or_eq_true, beq_iff_eq, List.contains_iff_mem, eq_comm]

theorem names_apart : ∀ key ∈ all, ∀ other ∈ all, ∀ name ∈ key.names, name ∈ other.names →
    key = other := by
  decide +kernel

theorem field?_names {key : OptionKey} {name : String} (there : name ∈ key.names) :
    optionsRecord.field? name = some key.field := by
  unfold Record.field?
  rw [fields_eq]
  cases looked : (all.map field).find? (·.answersTo name) with
  | none =>
    have refused := List.find?_eq_none.1 looked key.field (List.mem_map_of_mem (mem_all key))
    exact absurd (answersTo_iff.2 there) refused
  | some found =>
    obtain ⟨other, -, rfl⟩ := List.mem_map.1 (List.mem_of_find?_eq_some looked)
    have answers := List.find?_some looked
    rw [names_apart key (mem_all key) other (mem_all other) name there (answersTo_iff.1 answers)]

theorem field?_some {name : String} {found : Field Save.Options}
    (looked : optionsRecord.field? name = some found) :
    ∃ key : OptionKey, found = key.field ∧ name ∈ key.names := by
  unfold Record.field? at looked
  rw [fields_eq] at looked
  obtain ⟨key, -, rfl⟩ := List.mem_map.1 (List.mem_of_find?_eq_some looked)
  have answers := List.find?_some looked
  exact ⟨key, rfl, answersTo_iff.1 answers⟩

theorem set_ok {key : OptionKey} {node : Node} {options after : Save.Options} :
    key.field.set node options = .ok after ↔
      ∃ value, key.slot.Stands value node ∧ after = key.put value options := by
  simp only [← Slot.read_ok]
  change (key.slot.read node).map (key.put · options) = .ok after ↔ _
  cases key.slot.read node <;> simp [Except.map, eq_comm]

end OptionKey

/-- The fields of the options, and what may be written for them. -/
def optionsLayout : optionsRecord.Layout OptionKey where
  Value key := key.slot.Carrier
  get := OptionKey.get
  put := OptionKey.put
  names := OptionKey.names
  Means key := key.slot.Stands
  field := OptionKey.field
  get_put key value options := by cases key <;> rfl
  get_put_other {key other} away value options := by
    cases key <;> cases other <;> first | rfl | exact absurd rfl away
  ext {options options'} same := by
    cases options
    cases options'
    rw [Save.Options.mk.injEq]
    exact ⟨same .format, same .quality, same .jpegQuality, same .pngLevel, same .pngFilter,
      same .unit, same .resolutionX, same .resolutionY, same .resampling, same .animated,
      same .delay, same .loops, same .flatten⟩
  strict := rfl
  free := by
    rw [OptionKey.fields_eq]
    simp only [List.mem_map]
    rintro _ ⟨key, -, rfl⟩
    rfl
  found := OptionKey.field?_names
  known := OptionKey.field?_some
  apart {key other} same := by
    have named : key.name ∈ other.names := by
      rw [show key.name = other.name from same]
      exact List.mem_cons_self
    exact OptionKey.names_apart key (OptionKey.mem_all key) other (OptionKey.mem_all other)
      key.name List.mem_cons_self named
  set_ok := OptionKey.set_ok

theorem decode_members (members : List (Node × Node)) :
    decode options ⟨.object members true, true⟩ = optionsRecord.ofMembers members true := by
  change (optionsRecord.ofMembers members true >>= pure) = _
  exact bind_pure _

theorem decode_options_object (members : List (Node × Node)) :
    (∀ value, decode options ⟨.object members true, true⟩ = .ok value ↔
      optionsLayout.Written members value) ∧
    (∀ shuffled, members.Perm shuffled → ∀ value,
      (decode options ⟨.object shuffled true, true⟩ = .ok value ↔
        decode options ⟨.object members true, true⟩ = .ok value)) ∧
    ((∃ fault, decode options ⟨.object members true, true⟩ = .error fault) ↔
      (∃ member ∈ members, ∀ key, ¬optionsLayout.Names key member) ∨
      (∃ key first second, [first, second].Sublist members ∧
        optionsLayout.Names key first ∧ optionsLayout.Names key second) ∨
      ∃ key, ∃ member ∈ members, optionsLayout.Names key member ∧ key.slot.Misfit member.2) := by
  refine ⟨fun value => ?_, fun shuffled shuffle value => ?_, ?_⟩
  · rw [decode_members, optionsLayout.ofMembers_ok]
  · rw [decode_members, decode_members, optionsLayout.ofMembers_ok, optionsLayout.ofMembers_ok,
      Record.Layout.written_perm shuffle]
  · rw [decode_members, optionsLayout.ofMembers_error]
    constructor
    · rintro (⟨member, there, unknown⟩ | ⟨key, first, second, there, named, again⟩ |
        ⟨key, member, there, named, nothing⟩)
      · exact .inl ⟨member, there, unknown⟩
      · exact .inr (.inl ⟨key, first, second, there, named, again⟩)
      · exact .inr (.inr ⟨key, member, there, named, Slot.misfit_iff.2 nothing⟩)
    · rintro (⟨member, there, unknown⟩ | ⟨key, first, second, there, named, again⟩ |
        ⟨key, member, there, named, misfit⟩)
      · exact .foreign member there unknown
      · exact .twice key first second there named again
      · exact .meaningless key member there named (Slot.misfit_iff.1 misfit)

/-- An alias, a name in capitals and between blanks, a negative number and a null. -/
def animationMembers : List (Node × Node) :=
  [(.text "resolution-units", .text " PixelsPerInch\n"),
    (.text "animated.delay", .integer 50), (.text "animated", .boolean true),
    (.text "resampling_filter", .null), (.text "png_compression_level", .integer (-3))]

def animationOptions : Save.Options where
  unit := some .perInch
  delay := some 50
  animated := true
  pngLevel := some (-3)

theorem decode_options_object_reversed : animationMembers.Perm animationMembers.reverse ∧
    optionsLayout.Written animationMembers animationOptions ∧
      decode options ⟨.object animationMembers.reverse true, true⟩ = .ok animationOptions := by
  have shuffle := (List.reverse_perm animationMembers).symm
  have read : decode options ⟨.object animationMembers true, true⟩ = .ok animationOptions := by
    decide +kernel
  obtain ⟨written, ordered, -⟩ := decode_options_object animationMembers
  exact ⟨shuffle, (written _).1 read, (ordered _ shuffle _).2 read⟩

end Retouch.Json
