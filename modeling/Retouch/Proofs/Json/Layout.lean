import Mathlib.Data.List.Pairwise
import Retouch.Json.Record

/-!
Strict records read from objects. Whatever the order of its members, an object is read exactly if
each is for a field of its own and means a value for it; the value that comes of it has these in the
fields that are written, and what it had in all others.
-/
namespace Retouch.Json.Record
variable {σ κ : Type} {record : Record σ}

/-- The fields of a strict record that has no field it requires, with what may be written for
each. -/
structure Layout (record : Record σ) (κ : Type) where
  Value : κ → Type
  get : (key : κ) → σ → Value key
  put : (key : κ) → Value key → σ → σ
  names : κ → List String
  Means : (key : κ) → Value key → Node → Prop
  field : κ → Field σ
  get_put : ∀ key value whole, get key (put key value whole) = value
  get_put_other : ∀ {key other}, other ≠ key → ∀ value whole,
    get other (put key value whole) = get other whole
  ext : ∀ {whole whole'}, (∀ key, get key whole = get key whole') → whole = whole'
  strict : record.strict = true
  free : ∀ field ∈ record.fields, field.required = false
  found : ∀ {key name}, name ∈ names key → record.field? name = some (field key)
  known : ∀ {name found}, record.field? name = some found → ∃ key, found = field key ∧
    name ∈ names key
  apart : ∀ {key key'}, (field key).name = (field key').name → key = key'
  set_ok : ∀ {key node whole after}, (field key).set node whole = .ok after ↔
    ∃ value, Means key value node ∧ after = put key value whole

namespace Layout
variable (layout : record.Layout κ)

/-- The member is for the field, under one of its names. -/
def Names (key : κ) (member : Node × Node) : Prop :=
  ∃ name ∈ layout.names key, member.1 = .text name

/-- No two members are for the same field. -/
def Once (members : List (Node × Node)) : Prop :=
  members.Pairwise fun first second => ∀ key, layout.Names key first → ¬layout.Names key second

/-- The members say what the fields are, and those that no member is for are as they were. -/
structure Written (members : List (Node × Node)) (whole : σ) : Prop where
  meant : ∀ member ∈ members, ∃ key, layout.Names key member ∧
    layout.Means key (layout.get key whole) member.2
  once : layout.Once members
  rest : ∀ key, (∀ member ∈ members, ¬layout.Names key member) →
    layout.get key whole = layout.get key record.initial

variable {layout}

theorem Names.unique {key key' : κ} {member : Node × Node} (named : layout.Names key member)
    (named' : layout.Names key' member) : key = key' := by
  obtain ⟨name, there, text⟩ := named
  obtain ⟨name', there', text'⟩ := named'
  obtain rfl := Node.text.inj (text.symm.trans text')
  have same := (layout.found there).symm.trans (layout.found there')
  exact layout.apart (congrArg Field.name (Option.some.inj same))

theorem once_perm {members shuffled : List (Node × Node)} (shuffle : members.Perm shuffled) :
    layout.Once members ↔ layout.Once shuffled :=
  shuffle.pairwise_iff fun apart key named named' => apart key named' named

theorem written_perm {members shuffled : List (Node × Node)} (shuffle : members.Perm shuffled)
    (whole : σ) : layout.Written members whole ↔ layout.Written shuffled whole := by
  have same (member : Node × Node) : member ∈ members ↔ member ∈ shuffled := shuffle.mem_iff
  constructor
  · rintro ⟨meant, once, rest⟩
    simp only [same] at meant rest
    exact ⟨meant, (once_perm shuffle).1 once, rest⟩
  · rintro ⟨meant, once, rest⟩
    simp only [← same] at meant rest
    exact ⟨meant, (once_perm shuffle).2 once, rest⟩

theorem member_ok {seen seen' : List String} {whole after : σ} {member : Node × Node} :
    record.member (seen, whole) member = .ok (seen', after) ↔
      ∃ key value, layout.Names key member ∧ (layout.field key).name ∉ seen ∧
        layout.Means key value member.2 ∧ seen' = (layout.field key).name :: seen ∧
        after = layout.put key value whole := by
  obtain ⟨label, node⟩ := member
  constructor
  · intro taken
    cases label with
    | text name =>
      cases looked : record.field? name with
      | none =>
        simp [Record.member, looked, layout.strict] at taken
      | some found =>
        obtain ⟨key, rfl, there⟩ := layout.known looked
        simp only [Record.member, looked] at taken
        split at taken
        · cases taken
        next fresh =>
          cases read : (layout.field key).set node whole with
          | error fault => simp [read, Except.map] at taken
          | ok result =>
            obtain ⟨value, means, rfl⟩ := layout.set_ok.1 read
            simp only [read, Except.map, Except.ok.injEq, Prod.mk.injEq] at taken
            exact ⟨key, value, ⟨name, there, rfl⟩, by simpa using fresh, means, taken.1.symm,
              taken.2.symm⟩
    | _ => cases taken
  · rintro ⟨key, value, ⟨name, there, text⟩, fresh, means, rfl, rfl⟩
    obtain rfl : label = .text name := text
    have unseen : seen.contains (layout.field key).name = false := by simpa using fresh
    simp only [Record.member, layout.found there, unseen, Bool.false_eq_true, if_false,
      layout.set_ok.2 ⟨value, means, rfl⟩, Except.map]

/-- What members make of a record of which some fields have been read already. -/
structure Adds (layout : record.Layout κ) (seen : List String) (whole : σ)
    (members : List (Node × Node)) (after : σ) : Prop where
  fresh : ∀ member ∈ members, ∀ key, layout.Names key member → (layout.field key).name ∉ seen
  meant : ∀ member ∈ members, ∃ key, layout.Names key member ∧
    layout.Means key (layout.get key after) member.2
  once : layout.Once members
  rest : ∀ key, (∀ member ∈ members, ¬layout.Names key member) →
    layout.get key after = layout.get key whole

theorem Adds.of_cons {seen : List String} {whole after : σ} {member : Node × Node}
    {members : List (Node × Node)} (adds : layout.Adds seen whole (member :: members) after) :
    ∃ key value, layout.Names key member ∧ (layout.field key).name ∉ seen ∧
      layout.Means key value member.2 ∧
      layout.Adds ((layout.field key).name :: seen) (layout.put key value whole) members after := by
  obtain ⟨key, named, means⟩ := adds.meant member (by simp)
  obtain ⟨apart, once⟩ := List.pairwise_cons.1 adds.once
  refine ⟨key, _, named, adds.fresh member (by simp) key named, means, ?_, ?_, once, ?_⟩
  · intro other there key' named' again
    rcases List.mem_cons.1 again with same | early
    · obtain rfl := layout.apart same
      exact apart other there _ named named'
    · exact adds.fresh other (by simp [there]) key' named' early
  · exact fun other there => adds.meant other (by simp [there])
  · intro other absent
    by_cases same : other = key
    · subst same
      rw [layout.get_put]
    · rw [layout.get_put_other same]
      apply adds.rest
      rintro later there named'
      rcases List.mem_cons.1 there with rfl | there
      · exact same (named'.unique named)
      · exact absent later there named'

theorem Adds.cons {seen : List String} {whole after : σ} {member : Node × Node}
    {members : List (Node × Node)} {key : κ} {value : layout.Value key}
    (named : layout.Names key member) (fresh : (layout.field key).name ∉ seen)
    (means : layout.Means key value member.2)
    (adds : layout.Adds ((layout.field key).name :: seen) (layout.put key value whole) members
      after) : layout.Adds seen whole (member :: members) after := by
  have later (other : Node × Node) (there : other ∈ members) : ¬layout.Names key other :=
    fun again => adds.fresh other there key again (by simp)
  have kept : layout.get key after = value := by
    rw [adds.rest key later, layout.get_put]
  refine ⟨?_, ?_, List.pairwise_cons.2 ⟨?_, adds.once⟩, ?_⟩
  · intro other there key' named'
    rcases List.mem_cons.1 there with rfl | there
    · rwa [named'.unique named]
    · exact fun early => adds.fresh other there key' named' (by simp [early])
  · intro other there
    rcases List.mem_cons.1 there with rfl | there
    · exact ⟨key, named, by rwa [kept]⟩
    · exact adds.meant other there
  · intro other there key' named'
    rw [named'.unique named]
    exact later other there
  · intro other absent
    have away : other ≠ key := by
      rintro rfl
      exact absent member (by simp) named
    rw [adds.rest other fun later there => absent later (by simp [there]),
      layout.get_put_other away]

theorem members_ok {seen : List String} {whole after : σ} {members : List (Node × Node)} :
    (∃ seen', members.foldlM record.member (seen, whole) = .ok (seen', after)) ↔
      layout.Adds seen whole members after := by
  induction members generalizing seen whole with
  | nil =>
    constructor
    · rintro ⟨seen', ran⟩
      obtain ⟨rfl, rfl⟩ := Prod.mk.inj (Except.ok.inj ran)
      exact ⟨by simp, by simp, .nil, fun _ _ => rfl⟩
    · intro adds
      obtain rfl := layout.ext fun key => adds.rest key (by simp)
      exact ⟨seen, rfl⟩
  | cons member members ih =>
    constructor
    · rintro ⟨seen', ran⟩
      rw [List.foldlM_cons] at ran
      cases taken : record.member (seen, whole) member with
      | error fault =>
        rw [taken] at ran
        cases ran
      | ok state =>
        obtain ⟨seen₁, whole₁⟩ := state
        rw [taken] at ran
        obtain ⟨key, value, named, fresh, means, rfl, rfl⟩ := layout.member_ok.1 taken
        exact .cons named fresh means (ih.1 ⟨seen', ran⟩)
    · intro adds
      obtain ⟨key, value, named, fresh, means, later⟩ := adds.of_cons
      obtain ⟨seen', ran⟩ := ih.2 later
      refine ⟨seen', ?_⟩
      rw [List.foldlM_cons, layout.member_ok.2 ⟨key, value, named, fresh, means, rfl, rfl⟩]
      exact ran

variable {members : List (Node × Node)}

theorem ofMembers_ok {whole : σ} :
    record.ofMembers members true = .ok whole ↔ layout.Written members whole := by
  have none_missing (seen : List String) : record.missing? seen = none := by
    simp only [missing?, List.find?_eq_none]
    intro field there
    simp [layout.free field there]
  have taken : record.ofMembers members true = .ok whole ↔
      ∃ seen, members.foldlM record.member ([], record.initial) = .ok (seen, whole) := by
    unfold ofMembers
    cases members.foldlM record.member ([], record.initial) with
    | error fault => simp [bind, Except.bind]
    | ok state => simp [bind, Except.bind, none_missing, Prod.ext_iff, eq_comm]
  rw [taken, layout.members_ok]
  constructor
  · exact fun adds => ⟨adds.meant, adds.once, adds.rest⟩
  · exact fun written => ⟨by simp, written.meant, written.once, written.rest⟩

theorem exists_written (once : layout.Once members)
    (mean : ∀ member ∈ members, ∃ key, layout.Names key member ∧
      ∃ value, layout.Means key value member.2) : ∃ whole, layout.Written members whole := by
  induction members with
  | nil => exact ⟨record.initial, by simp, .nil, fun _ _ => rfl⟩
  | cons member members ih =>
    obtain ⟨apart, once'⟩ := List.pairwise_cons.1 once
    obtain ⟨whole, written⟩ := ih once' fun other there => mean other (by simp [there])
    obtain ⟨key, named, value, means⟩ := mean member (by simp)
    refine ⟨layout.put key value whole, ?_, once, ?_⟩
    · intro other there
      rcases List.mem_cons.1 there with rfl | there
      · exact ⟨key, named, by rwa [layout.get_put]⟩
      · obtain ⟨key', named', means'⟩ := written.meant other there
        have away : key' ≠ key := by
          rintro rfl
          exact apart other there _ named named'
        exact ⟨key', named', by rwa [layout.get_put_other away]⟩
    · intro other absent
      have away : other ≠ key := by
        rintro rfl
        exact absent member (by simp) named
      rw [layout.get_put_other away]
      exact written.rest other fun later there => absent later (by simp [there])

/-- What can be wrong with an object: a member for no field, two members for one field, or a member
that means nothing for its field. -/
inductive Misfit (layout : record.Layout κ) (members : List (Node × Node)) : Prop
  | foreign (member : Node × Node) (there : member ∈ members)
      (unknown : ∀ key, ¬layout.Names key member)
  | twice (key : κ) (first second : Node × Node) (there : [first, second].Sublist members)
      (named : layout.Names key first) (again : layout.Names key second)
  | meaningless (key : κ) (member : Node × Node) (there : member ∈ members)
      (named : layout.Names key member) (nothing : ∀ value, ¬layout.Means key value member.2)

theorem ofMembers_error :
    (∃ fault, record.ofMembers members true = .error fault) ↔ layout.Misfit members := by
  have failed : (∃ fault, record.ofMembers members true = .error fault) ↔
      ¬∃ whole, layout.Written members whole := by
    simp only [← layout.ofMembers_ok]
    cases record.ofMembers members true <;> simp
  rw [failed]
  constructor
  · intro unwritten
    by_contra fits
    apply unwritten
    apply layout.exists_written
    · rw [Once, List.pairwise_iff_forall_sublist]
      exact fun there key named again => fits (.twice key _ _ there named again)
    · intro member there
      by_contra unmeant
      apply fits
      by_cases known : ∃ key, layout.Names key member
      · obtain ⟨key, named⟩ := known
        exact .meaningless key member there named fun value means =>
          unmeant ⟨key, named, value, means⟩
      · exact .foreign member there (not_exists.1 known)
  · rintro misfit ⟨whole, written⟩
    cases misfit with
    | foreign member there unknown =>
      obtain ⟨key, named, -⟩ := written.meant member there
      exact unknown key named
    | twice key first second there named again =>
      exact List.pairwise_iff_forall_sublist.1 written.once there key named again
    | meaningless key member there named nothing =>
      obtain ⟨key', named', means⟩ := written.meant member there
      obtain rfl := named.unique named'
      exact nothing _ means

end Layout

end Retouch.Json.Record
