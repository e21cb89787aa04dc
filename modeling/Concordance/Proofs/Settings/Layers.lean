import Concordance.Proofs.Yaml
import Concordance.Settings.Layers

/-!
# What layers lead to

An object laid over another is looked up by paths of keys: at each path there is what the upper
layer has there, laid over what the lower layer has there, and where the upper layer has nothing,
there is what the lower layer has, unless a value of the upper layer cuts the path off.

So an empty layer changes nothing, an object laid over itself is left as it is, and laying an
object over another a second time changes nothing more.
-/

namespace Concordance
namespace Settings

/-! ## Values -/

@[simp] theorem layValue_none (value : Value) : layValue none value = value := by
  cases value <;> rfl

/-- A value that is no object replaces what lies below. -/
theorem layValue_of_entries?
    {value : Value}
    (noObject : value.entries? = none)
    (below : Option Value) :
    layValue below value = value := by
  cases value with
  | obj entries => cases noObject
  | _ => rfl

@[simp] theorem layValue_obj_obj (lower upper : Entries Value) :
    layValue (some (.obj lower)) (.obj upper) = .obj (lay lower upper) := rfl

/-- An object over anything else replaces it. -/
theorem layValue_obj_of_noObject
    {below : Option Value}
    (noObject : ∀ value ∈ below, value.entries? = none)
    (upper : Entries Value) :
    layValue below (.obj upper) = .obj upper := by
  cases below with
  | none => rfl
  | some value =>
      cases value with
      | obj entries => cases noObject _ rfl
      | _ => rfl

/-- What lies below is an object, or nothing that keys lead through. -/
theorem exists_obj_or_noObject (below : Option Value) :
    (∃ lower, below = some (.obj lower)) ∨ ∀ value ∈ below, value.entries? = none := by
  rcases below with _ | value
  · exact .inr fun _ member => nomatch member
  · cases value with
    | obj lower => exact .inl ⟨lower, rfl⟩
    | _ => exact .inr fun _ member => Option.some.inj member ▸ rfl

@[simp] theorem lay_nil (lower : Entries Value) : lay lower [] = lower := rfl

@[simp] theorem lay_cons
    (lower : Entries Value)
    (key : String)
    (value : Value)
    (rest : Entries Value) :
    lay lower ((key, value) :: rest) =
      lay (lower.put key (layValue (lower.get? key) value)) rest := rfl

/-! ## Keys and paths -/

/-- Under a key there is what the upper layer has there, laid over what the lower layer has there;
where the upper layer has nothing, there is what the lower layer has. -/
theorem get?_lay
    {upper : Entries Value}
    (distinct : upper.keys.Nodup)
    (lower : Entries Value)
    (key : String) :
    (lay lower upper).get? key =
      ((upper.get? key).map (layValue (lower.get? key))).or (lower.get? key) := by
  induction upper generalizing lower with
  | nil => rfl
  | cons entry rest inductionHypothesis =>
      obtain ⟨name, value⟩ := entry
      rw [Entries.keys_cons, List.nodup_cons] at distinct
      rw [lay_cons, inductionHypothesis distinct.2, Entries.get?_put, Entries.get?_cons]
      by_cases same : name = key
      · subst same
        have later : Entries.get? rest name = none := (Entries.get?_eq_none_iff ..).2 distinct.1
        simp [later]
      · simp [same]

/-- What a path leads to in the lower layer, where there is one. -/
def beneath (below : Option Value) (path : List String) : Option Value :=
  below.bind fun lower => lower.at? path

/-- No key leads through what is no object. -/
theorem beneath_cons_of_noObject
    {below : Option Value}
    (noObject : ∀ value ∈ below, value.entries? = none)
    (key : String)
    (path : List String) :
    beneath below (key :: path) = none := by
  rw [beneath, Option.bind_eq_none_iff]
  exact fun value member => Value.at?_cons_of_entries? (noObject value member) key path

/-- At a path to a value of the upper layer, this value is laid over what the lower layer has
there. -/
theorem at?_layValue_of_some
    {value inner : Value}
    (keyed : value.IsKeyed)
    (below : Option Value)
    {path : List String}
    (found : value.at? path = some inner) :
    (layValue below value).at? path = some (layValue (beneath below path) inner) := by
  induction path generalizing below value with
  | nil =>
      rw [Value.at?_nil] at found
      cases found
      cases below <;> simp [beneath]
  | cons key path inductionHypothesis =>
      cases keyed with
      | other noObject =>
          rw [Value.at?_cons_of_entries? noObject] at found
          cases found
      | @obj upper distinct inside =>
          rw [Value.at?_obj_cons] at found
          obtain ⟨next, nextFound, found⟩ := Option.bind_eq_some_iff.1 found
          rcases exists_obj_or_noObject below with ⟨lower, rfl⟩ | noObject
          · rw [layValue_obj_obj, Value.at?_obj_cons, get?_lay distinct, nextFound]
            exact inductionHypothesis (inside _ (Entries.mem_of_get? nextFound))
              (Entries.get? lower key) found
          · rw [layValue_obj_of_noObject noObject, beneath_cons_of_noObject noObject,
              layValue_none, Value.at?_obj_cons, nextFound]
            exact found

/-- A value cuts a path off where a part of the path leads to it and it is no object. -/
def CutsOff (value : Value) (path : List String) : Prop :=
  ∃ front inner, front <+: path ∧ value.at? front = some inner ∧ inner.entries? = none

/-- At a path to nothing in the upper layer that is not cut off there, there is what the lower layer
has. -/
theorem at?_layValue_of_none
    {value : Value}
    (keyed : value.IsKeyed)
    (below : Option Value)
    {path : List String}
    (missing : value.at? path = none)
    (notCut : ¬CutsOff value path) :
    (layValue below value).at? path = beneath below path := by
  induction path generalizing below value with
  | nil =>
      rw [Value.at?_nil] at missing
      cases missing
  | cons key path inductionHypothesis =>
      cases keyed with
      | other noObject =>
          exact absurd ⟨[], value, List.nil_prefix, Value.at?_nil value, noObject⟩ notCut
      | @obj upper distinct inside =>
          rcases exists_obj_or_noObject below with ⟨lower, rfl⟩ | noObject
          · rw [layValue_obj_obj, Value.at?_obj_cons, get?_lay distinct]
            cases nextFound : Entries.get? upper key with
            | none => rfl
            | some next =>
                rw [Value.at?_obj_cons, nextFound] at missing
                refine inductionHypothesis (inside _ (Entries.mem_of_get? nextFound))
                  (Entries.get? lower key) missing ?_
                rintro ⟨front, inner, isFront, found, noObject⟩
                refine notCut
                  ⟨key :: front, inner, List.cons_prefix_cons.2 ⟨rfl, isFront⟩, ?_, noObject⟩
                rw [Value.at?_obj_cons, nextFound]
                exact found
          · rw [layValue_obj_of_noObject noObject, beneath_cons_of_noObject noObject]
            exact missing

/-- What there is at a path after an object is laid over another. -/
structure LaysAt (lower upper : Entries Value) (path : List String) : Prop where
  /-- A value of the upper layer that is no object replaces what the lower layer has. -/
  replaces : ∀ value,
    (Value.obj upper).at? path = some value -> value.entries? = none ->
      (Value.obj (lay lower upper)).at? path = some value
  /-- Objects of both layers are laid over each other. -/
  merges : ∀ below above,
    (Value.obj lower).at? path = some (.obj below) ->
    (Value.obj upper).at? path = some (.obj above) ->
      (Value.obj (lay lower upper)).at? path = some (.obj (lay below above))
  /-- An object of the upper layer stands alone where the lower layer has none. -/
  standsAlone : ∀ above,
    (Value.obj upper).at? path = some (.obj above) ->
    (∀ below, (Value.obj lower).at? path ≠ some (.obj below)) ->
      (Value.obj (lay lower upper)).at? path = some (.obj above)
  /-- Where the upper layer has nothing and cuts nothing off, the lower layer shows. -/
  shows :
    (Value.obj upper).at? path = none -> ¬CutsOff (.obj upper) path ->
      (Value.obj (lay lower upper)).at? path = (Value.obj lower).at? path
  /-- There is nothing that neither layer has, and nothing of the lower layer where the upper one
  cuts the path off. -/
  addsNothing :
    (Value.obj upper).at? path = none ->
    (Value.obj lower).at? path = none ∨ CutsOff (.obj upper) path ->
      (Value.obj (lay lower upper)).at? path = none

/-- Behind a value of the upper layer that cuts a path off there is nothing. -/
theorem at?_layValue_of_cutsOff
    {value : Value}
    (keyed : value.IsKeyed)
    (below : Option Value)
    {path : List String}
    (missing : value.at? path = none)
    (cut : CutsOff value path) :
    (layValue below value).at? path = none := by
  obtain ⟨front, inner, ⟨rest, rfl⟩, found, noObject⟩ := cut
  rw [Value.at?_append, at?_layValue_of_some keyed below found,
    layValue_of_entries? noObject, Option.bind_some]
  rw [Value.at?_append, found, Option.bind_some] at missing
  exact missing

/-- What there is at each path after a keyed object is laid over an object. -/
theorem laysAt_of_isKeyed
    {upper : Entries Value}
    (keyed : (Value.obj upper).IsKeyed)
    (lower : Entries Value)
    (path : List String) :
    LaysAt lower upper path where
  replaces value found noObject := by
    have there := at?_layValue_of_some keyed (some (.obj lower)) found
    rwa [layValue_of_entries? noObject] at there
  merges below above belowFound found := by
    have there := at?_layValue_of_some keyed (some (.obj lower)) found
    rwa [beneath, Option.bind_some, belowFound] at there
  standsAlone above found noObject := by
    have there := at?_layValue_of_some keyed (some (.obj lower)) found
    rcases exists_obj_or_noObject (beneath (some (.obj lower)) path) with ⟨below, found⟩ | alone
    · exact absurd found (noObject below)
    · rwa [layValue_obj_of_noObject alone] at there
  shows missing notCut := at?_layValue_of_none keyed (some (.obj lower)) missing notCut
  addsNothing missing nothingBelow := by
    by_cases cut : CutsOff (.obj upper) path
    · exact at?_layValue_of_cutsOff keyed (some (.obj lower)) missing cut
    · have belowMissing := nothingBelow.resolve_right cut
      exact (at?_layValue_of_none keyed (some (.obj lower)) missing cut).trans belowMissing

/-- A keyed value laid over a keyed one is keyed. -/
theorem isKeyed_layValue
    {value : Value}
    (keyed : value.IsKeyed)
    {below : Option Value}
    (belowKeyed : ∀ lower ∈ below, lower.IsKeyed) :
    (layValue below value).IsKeyed := by
  induction keyed generalizing below with
  | other noObject =>
      rw [layValue_of_entries? noObject]
      exact .other noObject
  | @obj upper distinct inside inductionHypothesis =>
      rcases exists_obj_or_noObject below with ⟨lower, rfl⟩ | noObject
      · rw [layValue_obj_obj]
        -- The entries are put one after another, and each put keeps the lower layer keyed.
        have lowerKeyed := belowKeyed _ rfl
        clear distinct inside belowKeyed
        induction upper generalizing lower with
        | nil => exact lowerKeyed
        | cons entry rest restHypothesis =>
            obtain ⟨key, above⟩ := entry
            rw [List.forall_mem_cons] at inductionHypothesis
            rw [lay_cons]
            refine restHypothesis inductionHypothesis.2 _ (lowerKeyed.put ?_ key)
            exact inductionHypothesis.1 fun _ found => lowerKeyed.of_get? found
      · rw [layValue_obj_of_noObject noObject]
        exact .obj distinct inside

/-! ## Layers that change nothing -/

/-- Entries under keys that the lower layer lacks go to its end. -/
theorem lay_of_disjoint
    {lower upper : Entries Value}
    (distinct : upper.keys.Nodup)
    (disjoint : ∀ key ∈ upper.keys, key ∉ lower.keys) :
    lay lower upper = lower ++ upper := by
  induction upper generalizing lower with
  | nil => simp
  | cons entry rest inductionHypothesis =>
      obtain ⟨key, value⟩ := entry
      rw [Entries.keys_cons] at distinct disjoint
      rw [List.nodup_cons] at distinct
      have missing : key ∉ Entries.keys lower := disjoint key List.mem_cons_self
      rw [lay_cons, (Entries.get?_eq_none_iff ..).2 missing, layValue_none,
        Entries.put_of_not_mem missing, inductionHypothesis distinct.2, List.append_assoc,
        List.singleton_append]
      intro other member present
      rw [Entries.keys, List.map_append, List.mem_append] at present
      rcases present with before | same
      · exact disjoint other (List.mem_cons_of_mem _ member) before
      · obtain rfl := List.mem_singleton.1 same
        exact distinct.1 member

/-- Entries that are laid over what they lead to already change nothing. -/
theorem lay_eq_self
    {lower upper : Entries Value}
    (absorbed : ∀ entry ∈ upper, ∃ value,
      lower.get? entry.1 = some value ∧ layValue (some value) entry.2 = value) :
    lay lower upper = lower := by
  induction upper with
  | nil => rfl
  | cons entry rest inductionHypothesis =>
      obtain ⟨key, above⟩ := entry
      rw [List.forall_mem_cons] at absorbed
      obtain ⟨⟨value, found, same⟩, absorbed⟩ := absorbed
      rw [lay_cons, found, same, Entries.put_of_get? found]
      exact inductionHypothesis absorbed

/-- A keyed value laid over itself is left as it is. -/
theorem layValue_self {value : Value} (keyed : value.IsKeyed) :
    layValue (some value) value = value := by
  induction keyed with
  | other noObject => exact layValue_of_entries? noObject _
  | obj distinct inside inductionHypothesis =>
      rw [layValue_obj_obj]
      congr 1
      apply lay_eq_self
      intro entry member
      exact ⟨entry.2, Entries.get?_of_mem distinct member, inductionHypothesis entry member⟩

/-- A keyed value that is laid over something once more changes nothing more. -/
theorem layValue_layValue {value : Value} (keyed : value.IsKeyed) (below : Option Value) :
    layValue (some (layValue below value)) value = layValue below value := by
  induction keyed generalizing below with
  | other noObject => rw [layValue_of_entries? noObject, layValue_of_entries? noObject]
  | @obj upper distinct inside inductionHypothesis =>
      rcases exists_obj_or_noObject below with ⟨lower, rfl⟩ | noObject
      · rw [layValue_obj_obj, layValue_obj_obj]
        congr 1
        apply lay_eq_self
        intro entry member
        refine ⟨layValue (Entries.get? lower entry.1) entry.2, ?_,
          inductionHypothesis entry member _⟩
        rw [get?_lay distinct, Entries.get?_of_mem distinct member]
        rfl
      · rw [layValue_obj_of_noObject noObject]
        exact layValue_self (.obj distinct inside)

/-! ## Layers of files -/

section Files

variable {m : Type -> Type} [Monad m] [LawfulMonad m]

/-- The object of a settings text is keyed. -/
theorem isKeyed_of_readRoot
    {text source : String}
    {root : Entries Value}
    (reads : readRoot text source = .ok root) :
    (Value.obj root).IsKeyed := by
  unfold readRoot at reads
  split at reads
  next => cases reads
  next =>
    cases reads
    exact .empty
  next isObject =>
    cases reads
    exact Yaml.isKeyed_of_read isObject
  next => cases reads

/-- A settings file laid over itself is the file as it is. -/
theorem lay_self_readFile
    (fileText : Path -> m (Except FileError String))
    (path : Path) :
    (fun outcome => outcome.map fun root => lay root root) <$> readFile fileText path =
      readFile fileText path := by
  unfold readFile
  rw [map_bind]
  congr 1
  funext outcome
  cases outcome with
  | error cause => rw [map_pure]; rfl
  | ok text =>
      rw [map_pure]
      congr 1
      cases reads : readRoot (String.ofList (withLineFeeds text.toList)) path.text with
      | error cause => rfl
      | ok root =>
          have same := layValue_self (isKeyed_of_readRoot reads)
          rw [layValue_obj_obj, Value.obj.injEq] at same
          rw [Except.map, same]

/-- A default file laid over itself is read once. -/
theorem readLayers_of_resolved_eq
    (fileText : Path -> m (Except FileError String))
    {lower upper : Path}
    (same : upper.resolved = lower.resolved) :
    readLayers fileText lower upper = readFile fileText lower := by
  unfold readLayers
  simp only [if_pos same]
  calc
    _ = readFile fileText lower >>= pure := by
      congr 1
      funext outcome
      cases outcome <;> rfl
    _ = readFile fileText lower := bind_pure _

end Files

/-! ## Exact layering -/

/-- An object laid over another is exact at every path, and the result is keyed where both are. An
empty layer on either side changes nothing, neither does an object laid over itself, and laying an
object over another a second time changes nothing more. So the default file, which is read once
where it is laid over itself, might as well be laid over itself. -/
theorem layers_are_exact
    {upper : Entries Value}
    (keyed : (Value.obj upper).IsKeyed)
    (lower : Entries Value) :
    (∀ path, LaysAt lower upper path) ∧
    ((Value.obj lower).IsKeyed -> (Value.obj (lay lower upper)).IsKeyed) ∧
    lay lower [] = lower ∧
    lay [] upper = upper ∧
    lay upper upper = upper ∧
    lay (lay lower upper) upper = lay lower upper ∧
    ∀ {m : Type -> Type} [Monad m] [LawfulMonad m]
      (fileText : Path -> m (Except FileError String))
      (path own : Path),
      own.resolved = path.resolved ->
        readLayers fileText path own =
          (fun outcome => outcome.map fun root => lay root root) <$> readFile fileText path := by
  have overItself := layValue_self keyed
  have twice := layValue_layValue keyed (some (.obj lower))
  rw [layValue_obj_obj, Value.obj.injEq] at overItself
  rw [layValue_obj_obj, layValue_obj_obj, Value.obj.injEq] at twice
  refine ⟨laysAt_of_isKeyed keyed lower, ?_, lay_nil lower, ?_, overItself, twice, ?_⟩
  · intro lowerKeyed
    exact isKeyed_layValue keyed fun _ found => Option.some.inj found ▸ lowerKeyed
  · rw [lay_of_disjoint keyed.distinct (fun _ _ => List.not_mem_nil), List.nil_append]
  · intro m _ _ fileText path own same
    rw [readLayers_of_resolved_eq fileText same, lay_self_readFile]

/-- A layer of defaults with objects and other values. -/
def defaultLayer : Entries Value :=
  [ ("log", .obj [("level", .str "INFO"), ("dir", .str "log")]),
    ("search", .int 3),
    ("opensearch", .obj [("index", .str "pages")]) ]

/-- A layer that has no value, an object and a list where the defaults have other things. -/
def ownLayer : Entries Value :=
  [ ("log", .obj [("level", .null)]),
    ("search", .obj [("items_per_page", .int 10)]),
    ("opensearch", .list [.int 1]) ]

/-- No value replaces a text, an object replaces a number, and a key that only the defaults have
shows from below. -/
theorem mixedLayers_are_exact :
    (Value.obj ownLayer).IsKeyed ∧
    (Value.obj (lay defaultLayer ownLayer)).at? ["log", "level"] = some .null ∧
    (Value.obj (lay defaultLayer ownLayer)).at? ["log", "dir"] = some (.str "log") ∧
    (Value.obj (lay defaultLayer ownLayer)).at? ["search"] =
      some (.obj [("items_per_page", .int 10)]) ∧
    lay (lay defaultLayer ownLayer) ownLayer = lay defaultLayer ownLayer := by
  have keyed : (Value.obj ownLayer).IsKeyed := by
    refine .obj (by decide) ?_
    simp only [ownLayer, List.forall_mem_cons]
    exact
      ⟨.obj (by decide) (by simpa using .other rfl), .obj (by decide) (by simpa using .other rfl),
        .other rfl, fun _ member => nomatch member⟩
  obtain ⟨laysAt, _, _, _, _, twice, _⟩ := layers_are_exact keyed defaultLayer
  refine ⟨keyed, ?_, ?_, ?_, twice⟩
  · exact (laysAt ["log", "level"]).replaces .null rfl rfl
  · refine (laysAt ["log", "dir"]).shows rfl ?_
    rintro ⟨front, inner, isFront, found, noObject⟩
    rcases List.prefix_cons_iff.1 isFront with rfl | ⟨rest, rfl, isRest⟩
    · cases found
      cases noObject
    · rcases List.prefix_cons_iff.1 isRest with rfl | ⟨last, rfl, isLast⟩
      · cases found
        cases noObject
      · rw [List.prefix_nil.1 isLast] at found
        cases found
  · refine (laysAt ["search"]).standsAlone _ rfl ?_
    intro below found
    cases found

end Settings
end Concordance
