import EventFilter.Predicate

/-!
The value that a predicate looks at.

A name is looked up exactly, then in any letter case by a search through the map in its order. The
search goes past texts that differ in more than letter case, and a key that is no text stops it.
-/

namespace EventFilter

namespace PropertyMap

def Lacks (properties : PropertyMap) (name : Text) : Prop :=
  ∀ entry ∈ properties, entry.1 ≠ .text name

def PassesOver (properties : PropertyMap) (name : Text) : Prop :=
  ∀ entry ∈ properties, ∃ other : Text, entry.1 = .text other ∧
    Text.foldCase other ≠ Text.foldCase name

/-- What a map has under a name: the entry of exactly this name, or else the first one that differs
in letter case only, or else nothing, which is the null value. -/
inductive Gives (properties : PropertyMap) (name : Text) : Value → Prop
  | exactly {before after : PropertyMap} {value : Value} :
      properties = before ++ (.text name, value) :: after → before.Lacks name →
      Gives properties name value
  | folded {before after : PropertyMap} {present : Text} {value : Value} :
      properties.Lacks name → properties = before ++ (.text present, value) :: after →
      Text.foldCase present = Text.foldCase name → before.PassesOver name →
      Gives properties name value
  | absent : properties.PassesOver name → Gives properties name .null

/-- A key that is no text comes before every key that differs from the name in letter case only,
and the name itself is no key. -/
structure IsBlockedBy (properties : PropertyMap) (name : Text) (key : Key) : Prop where
  lacks : properties.Lacks name
  notText : ∀ other : Text, key ≠ .text other
  met : ∃ before value after, properties = before ++ (key, value) :: after ∧
    PassesOver before name

variable {properties before : PropertyMap} {name : Text}

theorem PassesOver.lacks (passesOver : properties.PassesOver name) : properties.Lacks name := by
  intro entry inside same
  obtain ⟨other, found, distinct⟩ := passesOver entry inside
  rw [same, Key.text.injEq] at found
  exact distinct (by rw [found])

theorem get?_eq_none_iff : properties.get? name = none ↔ properties.Lacks name := by
  simp [get?, Lacks]

theorem get?_exactly {after : PropertyMap} {value : Value} (lacks : before.Lacks name) :
    get? (before ++ (.text name, value) :: after) name = some value := by
  have skipped : before.find? (fun entry => entry.1 = .text name) = none := by
    simpa [Lacks] using lacks
  rw [get?, List.find?_append, skipped, Option.none_or, List.find?_cons_of_pos (by simp)]
  rfl

theorem gives_of_get? {value : Value} (found : properties.get? name = some value) :
    properties.Gives name value := by
  obtain ⟨⟨key, present⟩, first, rfl⟩ := Option.map_eq_some_iff.mp found
  obtain ⟨same, before, after, rfl, earlier⟩ := List.find?_eq_some_iff_append.mp first
  simp only [decide_eq_true_eq] at same
  subst same
  exact .exactly rfl (by simpa [Lacks] using earlier)

end PropertyMap

namespace Predicate

open PropertyMap (Gives IsBlockedBy PassesOver)

variable {properties : PropertyMap} {name : Text}

theorem lookupFolded_append {before : PropertyMap} (passesOver : before.PassesOver name)
    (rest : PropertyMap) :
    lookupFolded (Text.foldCase name) (before ++ rest) =
      lookupFolded (Text.foldCase name) rest := by
  induction before with
  | nil => rfl
  | cons entry others ih =>
      obtain ⟨⟨other, same, distinct⟩, later⟩ := List.forall_mem_cons.mp passesOver
      obtain ⟨key, value⟩ := entry
      dsimp only at same
      subst same
      rw [List.cons_append, lookupFolded, if_neg distinct]
      exact ih later

theorem lookupFolded_of_notText {key : Key} {value : Value} {rest : PropertyMap}
    (notText : ∀ other : Text, key ≠ .text other) (folded : Text) :
    lookupFolded folded ((key, value) :: rest) = .error (.keyWithoutCase key) := by
  cases key with
  | text other => exact absurd rfl (notText other)
  | null | flag | integer | real | other => rfl

theorem lookup_of_lacks (lacks : properties.Lacks name) :
    lookup properties name = lookupFolded (Text.foldCase name) properties := by
  rw [lookup, PropertyMap.get?_eq_none_iff.mpr lacks]

theorem lookup_of_gives {value : Value} (gives : properties.Gives name value) :
    lookup properties name = .ok value := by
  cases gives with
  | exactly same lacks =>
      subst same
      rw [lookup, PropertyMap.get?_exactly lacks]
  | folded lacks same folded passesOver =>
      rw [lookup_of_lacks lacks, same, lookupFolded_append passesOver, lookupFolded,
        if_pos folded]
  | absent passesOver =>
      have past := lookupFolded_append passesOver []
      rw [lookup_of_lacks passesOver.lacks]
      rwa [List.append_nil] at past

theorem lookup_of_isBlockedBy {key : Key} (blocked : properties.IsBlockedBy name key) :
    lookup properties name = .error (.keyWithoutCase key) := by
  obtain ⟨lacks, notText, before, value, after, same, passesOver⟩ := blocked
  rw [lookup_of_lacks lacks, same, lookupFolded_append passesOver,
    lookupFolded_of_notText notText]

theorem search_cases (properties : PropertyMap) (name : Text) :
    properties.PassesOver name ∨
      ∃ before key value after, properties = before ++ (key, value) :: after ∧
        PassesOver before name ∧
        ((∀ other : Text, key ≠ .text other) ∨
          ∃ present : Text, key = .text present ∧
            Text.foldCase present = Text.foldCase name) := by
  induction properties with
  | nil => exact .inl fun entry inside => by cases inside
  | cons entry rest ih =>
      obtain ⟨key, value⟩ := entry
      by_cases notText : ∀ other : Text, key ≠ .text other
      · exact .inr ⟨[], key, value, rest, rfl, by simp [PassesOver], .inl notText⟩
      obtain ⟨present, isText⟩ := Classical.not_forall.mp notText
      rw [Classical.not_not] at isText
      by_cases folded : Text.foldCase present = Text.foldCase name
      · exact .inr ⟨[], key, value, rest, rfl, by simp [PassesOver],
          .inr ⟨present, isText, folded⟩⟩
      rcases ih with past | ⟨before, found, foundValue, after, rfl, past, ends⟩
      · exact .inl (List.forall_mem_cons.mpr ⟨⟨present, isText, folded⟩, past⟩)
      · exact .inr ⟨(key, value) :: before, found, foundValue, after, rfl,
          List.forall_mem_cons.mpr ⟨⟨present, isText, folded⟩, past⟩, ends⟩

theorem gives_or_isBlockedBy (properties : PropertyMap) (name : Text) :
    (∃ value, properties.Gives name value) ∨ ∃ key, properties.IsBlockedBy name key := by
  cases found : properties.get? name with
  | some value => exact .inl ⟨value, PropertyMap.gives_of_get? found⟩
  | none =>
      have lacks := PropertyMap.get?_eq_none_iff.mp found
      rcases search_cases properties name with
        past | ⟨before, key, value, after, same, past, notText | ⟨present, rfl, folded⟩⟩
      · exact .inl ⟨.null, .absent past⟩
      · exact .inr ⟨key, lacks, notText, before, value, after, same, past⟩
      · exact .inl ⟨value, .folded lacks same folded past⟩

theorem lookup_eq_ok_iff {value : Value} :
    lookup properties name = .ok value ↔ properties.Gives name value := by
  refine ⟨fun found => ?_, lookup_of_gives⟩
  rcases gives_or_isBlockedBy properties name with ⟨given, gives⟩ | ⟨key, blocked⟩
  · rw [lookup_of_gives gives] at found
    cases found
    exact gives
  · rw [lookup_of_isBlockedBy blocked] at found
    cases found

theorem lookup_eq_error_iff {fault : Fault} :
    lookup properties name = .error fault ↔
      ∃ key, fault = .keyWithoutCase key ∧ properties.IsBlockedBy name key := by
  constructor
  · intro failed
    rcases gives_or_isBlockedBy properties name with ⟨given, gives⟩ | ⟨key, blocked⟩
    · rw [lookup_of_gives gives] at failed
      cases failed
    · rw [lookup_of_isBlockedBy blocked] at failed
      cases failed
      exact ⟨key, rfl, blocked⟩
  · rintro ⟨key, rfl, blocked⟩
    exact lookup_of_isBlockedBy blocked

inductive IsSubject (properties : PropertyMap) (eventName : Value) : Text → Value → Prop
  | eventName : IsSubject properties eventName eventNameProperty eventName
  | property {name : Text} {value : Value} : name ≠ eventNameProperty →
      properties.Gives name value → IsSubject properties eventName name value

variable {predicate : Predicate} {eventName : Value}

theorem subject_eq_ok_iff {value : Value} :
    predicate.subject properties eventName = .ok value ↔
      IsSubject properties eventName predicate.parts.property value := by
  rw [subject]
  constructor
  · intro found
    split at found
    next same =>
      cases found
      rw [same]
      exact .eventName
    next other => exact .property other (lookup_eq_ok_iff.mp found)
  · intro isSubject
    generalize predicate.parts.property = name at isSubject ⊢
    cases isSubject with
    | eventName => rw [if_pos rfl]
    | property other gives => rw [if_neg other, lookup_of_gives gives]

theorem subject_eq_error_iff {fault : Fault} :
    predicate.subject properties eventName = .error fault ↔
      predicate.parts.property ≠ eventNameProperty ∧
        ∃ key, fault = .keyWithoutCase key ∧
          properties.IsBlockedBy predicate.parts.property key := by
  rw [subject, ← lookup_eq_error_iff]
  split
  next same => exact ⟨nofun, fun blocked => absurd same blocked.1⟩
  next other => exact ⟨fun failed => ⟨other, failed⟩, fun blocked => blocked.2⟩

end Predicate

end EventFilter
