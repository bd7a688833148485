import Statewright.Machine.Typestate
import Statewright.Proofs.BlankLists
import Statewright.Proofs.FragmentChecks
import Statewright.Proofs.Rebinding
import Statewright.Validation.Verdict

/-!
Parameters that one function hands on to another with the same list. The call evaluates every parameter by its name,
and the other function binds it again: under the same names unless it knows one of them otherwise.
-/
set_option autoImplicit false

namespace Statewright

namespace Code

-- An argument that is a name, and its text.
inductive Writes : Argument → Text → Prop where
  | positional (name : Text) : Writes (.positional (.name name)) name
  | unpacked (name : Text) : Writes (.unpacked (.name name)) ('*' :: name)
  | named (name : Text) : Writes (.named name (.name name)) (name ++ '=' :: name)
  | mapped (name : Text) : Writes (.mapped (.name name)) ('*' :: '*' :: name)

namespace Params

-- The arguments that hand every parameter on.
def handing (params : Params) : List Argument :=
  (params.positionalOnly ++ params.positional).map (fun param => .positional (.name param.name)) ++
    params.rest.toList.map (fun param => .unpacked (.name param.name)) ++
    params.keywordOnly.map (fun param => .named param.name (.name param.name)) ++
    params.keywords.toList.map fun param => .mapped (.name param.name)

theorem forwarding_written (params : Params) : List.Forall₂ Writes params.handing params.forwarding := by
  have each : ∀ (items : List Param) (argument : Param → Argument) (text : Param → Text)
      (_ : ∀ item, Writes (argument item) (text item)), List.Forall₂ Writes (items.map argument) (items.map text) := by
    intro items argument text writes
    rw [List.forall₂_map_left_iff, List.forall₂_map_right_iff, List.forall₂_same]
    exact fun item _ => writes item
  refine List.rel_append (List.rel_append (List.rel_append ?_ ?_) ?_) ?_
  · exact each _ _ _ fun param => .positional param.name
  · exact each _ _ _ fun param => .unpacked param.name
  · exact each _ _ _ fun param => .named param.name
  · exact each _ _ _ fun param => .mapped param.name

end Params

end Code

namespace Machine

section Evaluation

variable (classes : List DataClass) (known : Locals)

-- The arguments of a call evaluate to these, and evaluating them changes nothing.
def Supplies (arguments : List Code.Argument) (given : Arguments Value) : Prop :=
  ∀ contents, evaluateArguments classes known arguments contents = .done given contents

theorem supplies_positional (names : List Text) (values : List Value) (more : List Code.Argument)
    (given : Arguments Value)
    (found : List.Forall₂ (fun name value => named? known name = some value) names values)
    (supplied : Supplies classes known more given) :
    Supplies classes known (names.map (fun name => .positional (.name name)) ++ more)
      { given with positional := values ++ given.positional } := by
  induction found with
  | nil => exact supplied
  | cons one _ ih =>
      intro contents
      rw [List.map_cons, List.cons_append, evaluateArguments, evaluate, one]
      change Run.andThen (evaluateArguments classes known _ contents) _ = _
      rw [ih contents]
      rfl

theorem supplies_unpacked (name : Text) (values : List Value) (more : List Code.Argument) (given : Arguments Value)
    (found : named? known name = some (.tuple values)) (supplied : Supplies classes known more given) :
    Supplies classes known (.unpacked (.name name) :: more)
      { given with positional := values ++ given.positional } := by
  intro contents
  rw [evaluateArguments, evaluate, found]
  change Run.andThen (evaluateArguments classes known more contents) _ = _
  rw [supplied contents]
  rfl

theorem supplies_named (names : List Text) (values : List Value) (more : List Code.Argument)
    (given : Arguments Value)
    (found : List.Forall₂ (fun name value => named? known name = some value) names values)
    (supplied : Supplies classes known more given) :
    Supplies classes known (names.map (fun name => .named name (.name name)) ++ more)
      { given with named := names.zip values ++ given.named } := by
  induction found with
  | nil => exact supplied
  | cons one _ ih =>
      intro contents
      rw [List.map_cons, List.cons_append, evaluateArguments, evaluate, one]
      change Run.andThen (evaluateArguments classes known _ contents) _ = _
      rw [ih contents]
      rfl

theorem supplies_mapped (name : Text) (entries : List (Text × Value)) (more : List Code.Argument)
    (given : Arguments Value) (found : named? known name = some (.record entries))
    (supplied : Supplies classes known more given) :
    Supplies classes known (.mapped (.name name) :: more) { given with named := entries ++ given.named } := by
  intro contents
  rw [evaluateArguments, evaluate, found]
  change Run.andThen (evaluateArguments classes known more contents) _ = _
  rw [supplied contents]
  rfl

end Evaluation

-- Every parameter is known by its name.
def Knows (known : Locals) (bindings : List (Text × Bound Value)) : Prop :=
  ∀ name bound, (name, bound) ∈ bindings → named? known name = some bound.value

theorem knows_locals (front : Locals) (bindings : List (Text × Bound Value))
    (distinct : (front.map (·.1) ++ bindings.map (·.1)).Nodup) : Knows (front ++ locals bindings) bindings := by
  intro name bound member
  have inside : (name, bound.value) ∈ front ++ locals bindings :=
    List.mem_append_right _ (List.mem_map.mpr ⟨(name, bound), member, rfl⟩)
  have keys : ((front ++ locals bindings).map (·.1)).Nodup := by
    rw [List.map_append, locals, List.map_map]
    exact distinct
  rw [named?, Validation.find_named (·.1) _ keys _ inside]
  rfl

section
variable (classes : List DataClass) (known : Locals) (params : Code.Params) (filling : Filling Value)
  (fits : filling.Fits (formalsOf params)) (knows : Knows known (filling.bindings (formalsOf params)))
include knows

theorem slots_known (items : List Code.Param) (values : List Value) (even : values.length = items.length)
    (within : fillPositions (items.map slotOf) values ⊆ filling.bindings (formalsOf params)) :
    List.Forall₂ (fun name value => named? known name = some value) (items.map (·.name)) values := by
  refine List.forall₂_iff_zip.mpr ⟨by simp [even], fun {name value} paired => ?_⟩
  refine knows name (.one value) (within ?_)
  rw [fill_positions_eq, List.map_map]
  exact List.mem_map.mpr ⟨(name, value), paired, rfl⟩

include fits

theorem collected_supplied :
    Supplies classes known (params.keywords.toList.map fun param => .mapped (.name param.name))
      { named := filling.collected } := by
  cases more : params.keywords with
  | none =>
      rw [fits.collected (by rw [formalsOf, more]; rfl)]
      exact fun contents => rfl
  | some param =>
      have bound := knows param.name (.keywords filling.collected)
        (List.mem_append_right _ (by simp [formalsOf, more]))
      have supplied := supplies_mapped classes known param.name filling.collected [] {} bound fun contents => rfl
      rw [List.append_nil] at supplied
      exact supplied

theorem left_supplied (others : List Code.Argument) (given : List (Text × Value))
    (named : Supplies classes known others { named := given }) :
    Supplies classes known (params.rest.toList.map (fun param => .unpacked (.name param.name)) ++ others)
      { positional := filling.left, named := given } := by
  cases remaining : params.rest with
  | none =>
      rw [fits.left (by rw [formalsOf, remaining]; rfl)]
      exact named
  | some param =>
      have bound := knows param.name (.rest filling.left) (List.mem_append_left _ (List.mem_append_left _
        (List.mem_append_right _ (by simp [formalsOf, remaining]))))
      have supplied := supplies_unpacked classes known param.name filling.left _ _ bound named
      rw [List.append_nil] at supplied
      exact supplied

theorem handing_supplies : Supplies classes known params.handing (filling.handed (formalsOf params)) := by
  have first := slots_known known params filling knows (params.positionalOnly ++ params.positional) filling.values
    (by simpa [formalsOf] using fits.values) (by
      rw [List.map_append]
      exact fun _ member => List.mem_append_left _ (List.mem_append_left _ (List.mem_append_left _ member)))
  have later := slots_known known params filling knows params.keywordOnly filling.named
    (by simpa [formalsOf] using fits.named) fun _ member => List.mem_append_left _ (List.mem_append_right _ member)
  have last := collected_supplied classes known params filling fits knows
  have named := supplies_named classes known (params.keywordOnly.map (·.name)) filling.named _ _ later last
  have rest := left_supplied classes known params filling fits knows _ _ named
  have all := supplies_positional classes known _ filling.values _ _ first rest
  have keys : (formalsOf params).keywordOnly.map (·.name) = params.keywordOnly.map (·.name) := by
    simp [formalsOf, slotOf]
  rw [Code.Params.handing, List.append_assoc, List.append_assoc, Filling.handed, Filling.byName, keys]
  rw [List.map_map, List.map_map] at all
  exact all

end

end Machine

namespace Code

-- A list that is accepted for a method and can be handed on reads alone as it reads behind the object.
theorem alone_of_handed (text : Text) (params : Params) (accepted : readMethodParams text = .ok params)
    (handed : Reads (forwardingText text)) : readParams text = .ok params := by
  cases filled : text.isEmpty with
  | true =>
      obtain rfl := List.isEmpty_iff.mp filled
      have alone : readParams [] = .ok ⟨[], [], none, [], none⟩ := by rfl
      rw [alone, blank_list_empty [] params rfl accepted]
  | false =>
      refine alone_of_after_object text params filled accepted ?_
      cases blank : Text.blank text with
      | true =>
          have ended := blank_tokens text blank
          unfold opensWithSlash
          cases tokens : listTokens text with
          | nil => rfl
          | cons token more =>
              rw [tokens] at ended
              refine decide_eq_false fun slash => ?_
              rcases ended with closing | foreign
              · rw [slash] at closing
                cases closing
              · rw [slash] at foreign
                cases foreign
      | false =>
          obtain ⟨forwarded, written⟩ := handed
          rw [forwardingText, blank, if_neg Bool.false_ne_true] at written
          by_contra begins
          cases alone : readParams text with
          | error line =>
              rw [alone] at written
              cases written
          | ok read => exact alone_ne_ok text read (by simpa using begins) alone

theorem written_of_handed (text : Text) (params : Params) (accepted : readMethodParams text = .ok params)
    (handed : Reads (forwardingText text)) : forwardingText text = .ok (Text.join ", " params.forwarding) := by
  unfold forwardingText
  split
  · rename_i blank
    rw [blank_list_empty text params blank accepted]
    rfl
  · rw [alone_of_handed text params accepted handed]
    rfl

end Code

namespace Machine

-- A list of parameters in a method of a class, and in the function that a method of a deterministic machine calls.
abbrev asMethod (params : Code.Params) (owner : Text) : Formals Value :=
  (formalsOf params).headed owner [Text.fixed "self"]

abbrev asBody (params : Code.Params) : Formals Value :=
  (formalsOf params).headed [] [Text.fixed "state", Text.fixed "context"]

section Handing

variable (params : Code.Params)

-- The headings that take a list once more: a method of another class, and the function behind a method of a
-- deterministic machine, whose list has no parameter of a name in front.
inductive Receiver : Formals Value → Prop where
  | method (owner : Text) : Receiver (asMethod params owner)
  | body (unreserved : ∀ name ∈ Validation.bodyArguments, name ∉ params.names) :
      Receiver (asBody params)

theorem receiver_headed (receiver : Formals Value) (takes : Receiver params receiver) :
    ∃ owner front, receiver = (formalsOf params).headed owner front ∧ ∀ name ∈ front, isPrivate name = false := by
  cases takes with
  | method owner =>
      refine ⟨owner, [Text.fixed "self"], rfl, fun name member => ?_⟩
      rw [List.mem_singleton.mp member]
      decide
  | body unreserved =>
      refine ⟨[], [Text.fixed "state", Text.fixed "context"], rfl, fun name member => ?_⟩
      rcases List.mem_pair.mp member with rfl | rfl
      · decide
      · decide

-- What a method hands on, and what becomes of it.
structure HandsOn (method : Formals Value) (arguments : Arguments Value) (bindings : List (Text × Bound Value))
    (passed : Arguments Value) : Prop where
  supplied : ∀ classes self, Supplies classes ((Text.fixed "self", self) :: locals bindings) params.handing passed
  again : ∀ receiver, Receiver params receiver → receiver.Compiles →
    (receiver.bind passed = some bindings ↔ receiver.Receives (method.foreign arguments))
  methods : (∀ name ∈ params.names, isPrivate name = false) → ∀ owner,
    (asMethod params owner).bind passed = some bindings
  bodies : (∀ name ∈ params.names, isPrivate name = false) →
    (∀ name ∈ Validation.bodyArguments, name ∉ params.names) →
    ((asBody params).bind passed = some bindings ↔
      params.positionalOnly ≠ [] ∨ ∀ argument ∈ arguments.named, argument.1 ∉ Validation.bodyArguments)

theorem formals_names_perm : (formalsOf params).names.Perm params.names := by
  simp only [Formals.names, formalsOf, slotOf, Code.Params.names, Code.Params.all, List.map_append, List.map_map,
    Function.comp_def, Option.toList_map, List.append_assoc]
  refine List.Perm.append_left _ (List.Perm.append_left _ ?_)
  rw [← List.append_assoc, ← List.append_assoc]
  exact List.Perm.append_right _ List.perm_append_comm

theorem formals_names (name : Text) : name ∈ (formalsOf params).names ↔ name ∈ params.names :=
  (formals_names_perm params).mem_iff

-- The names that the parameters of a list cannot have behind others.
def unusable (front : List Text) : List Text := Text.fixed "__debug__" :: front

-- The list compiles behind other parameters if its names stay apart in the class and keep clear of the others.
theorem headed_compiles_iff (owner : Text) (front : List Text) (distinct : (unusable front).Nodup)
    (steady : ∀ name ∈ unusable front, Steady name) :
    ((formalsOf params).headed owner front).Compiles ↔
      (params.names.map (nameWithin owner)).Nodup ∧ ∀ name ∈ unusable front, name ∉ params.names := by
  have names := (formals_names_perm params).map (nameWithin owner)
  have whole : ((formalsOf params).headed owner front).Compiles ↔
      (unusable front ++ (formalsOf params).names.map (nameWithin owner)).Nodup := by
    rw [unusable, List.cons_append, List.nodup_cons]
    exact and_comm
  have within : ∀ name ∈ unusable front,
      name ∈ (formalsOf params).names.map (nameWithin owner) ↔ name ∈ params.names := by
    intro name taken
    rw [names.mem_iff, List.mem_map]
    simp only [name_within_steady_iff owner _ name (steady name taken), exists_eq_right]
  rw [whole, List.nodup_append, names.nodup_iff]
  constructor
  · rintro ⟨_, apart, clear⟩
    exact ⟨apart, fun name taken listed => clear name taken name ((within name taken).mpr listed) rfl⟩
  · rintro ⟨apart, clear⟩
    refine ⟨distinct, apart, fun name taken other listed same => ?_⟩
    exact clear name taken ((within name taken).mp (same ▸ listed))

theorem method_compiles_iff (owner : Text) : (asMethod params owner).Compiles ↔
    (params.names.map (nameWithin owner)).Nodup ∧ ∀ name ∈ unusable [Text.fixed "self"], name ∉ params.names :=
  headed_compiles_iff params owner _ (by decide) (by decide)

theorem body_compiles_iff : (asBody params).Compiles ↔ (params.names.map (nameWithin [])).Nodup ∧
    ∀ name ∈ unusable [Text.fixed "state", Text.fixed "context"], name ∉ params.names :=
  headed_compiles_iff params [] _ (by decide) (by decide)

-- A list without private names is the same in every class.
theorem plain_receives_iff (plain : ∀ name ∈ params.names, isPrivate name = false) (owner other : Text)
    (front : List Text) (arguments : Arguments Value) :
    ((formalsOf params).headed other front).Receives
        ((asMethod params owner).foreign arguments) ↔
      ∀ entry ∈ (asMethod params owner).foreign arguments,
        entry.1 ∉ ((formalsOf params).headed other front).frontNames := by
  have plainFormals : ∀ owner front, ∀ name ∈ ((formalsOf params).headed owner front).names, isPrivate name = false :=
    fun owner front name member => plain name ((formals_names params name).mp member)
  have openNames := fun owner front => Formals.open_names_plain _ (plainFormals owner front)
  constructor
  · intro receives entry member known
    refine receives.foreign entry member ?_
    rw [openNames]
    exact List.mem_append_left _ known
  · intro unknown
    constructor
    case called =>
      intro slot member
      exact Formals.key_plain _ (plainFormals other front) slot (List.mem_append_right _ member)
    case foreign =>
      intro entry member known
      rw [openNames] at known
      refine (List.mem_append.mp known).elim (unknown entry member) fun named => ?_
      have foreign := (List.mem_filter.mp member).2
      rw [openNames] at foreign
      simp only [Bool.not_eq_true', List.contains_eq_mem, decide_eq_false_iff_not, List.mem_append] at foreign
      exact foreign (.inr named)

-- What the function behind a method knows otherwise: a name that it gets first, unless a slash follows that.
theorem body_front_iff (plain : ∀ name ∈ params.names, isPrivate name = false)
    (unreserved : ∀ name ∈ Validation.bodyArguments, name ∉ params.names) (owner : Text)
    (arguments : Arguments Value) :
    (∀ entry ∈ (asMethod params owner).foreign arguments,
      entry.1 ∉ (asBody params).frontNames) ↔
      params.positionalOnly ≠ [] ∨ ∀ argument ∈ arguments.named, argument.1 ∉ Validation.bodyArguments := by
  cases only : params.positionalOnly with
  | cons one more =>
      have none : (asBody params).frontNames = [] := by
        simp [Formals.frontNames, Formals.headed, formalsOf, only]
      simp [none]
  | nil =>
      have front : (asBody params).frontNames =
          [Text.fixed "state", Text.fixed "context"] := by
        simp [Formals.frontNames, Formals.headed, formalsOf, only]
      have reserved : ∀ name, name ∈ [Text.fixed "state", Text.fixed "context"] ↔ name ∈ Validation.bodyArguments :=
        fun name => (List.Perm.swap _ _ []).mem_iff
      simp only [front, reserved, ne_eq, not_true_eq_false, false_or]
      constructor
      · intro unknown argument given taken
        refine unknown argument (List.mem_filter.mpr ⟨given, ?_⟩) taken
        have openNames := Formals.open_names_plain (asMethod params owner)
          fun name member => plain name ((formals_names params name).mp member)
        simp only [openNames, Bool.not_eq_true', List.contains_eq_mem, decide_eq_false_iff_not, List.mem_append]
        rintro (first | named)
        · have self := Formals.front_of_front_names _ _ first
          rw [List.mem_singleton.mp self] at taken
          revert taken
          decide
        · refine unreserved _ taken ((formals_names params _).mp (List.mem_append_left _ (List.mem_append_left _ ?_)))
          rw [List.append_assoc, List.map_append]
          exact List.mem_append_right _ named
      · intro apart entry member
        exact apart entry (List.mem_filter.mp member).1

section Compiling

variable (plain : ∀ name ∈ params.names, isPrivate name = false) (owner : Text)
  (compiles : (asMethod params owner).Compiles)

include compiles

theorem method_distinct : (Text.fixed "self" :: (formalsOf params).names).Nodup := by
  obtain ⟨_, clear⟩ := (method_compiles_iff params owner).mp compiles
  refine List.nodup_cons.mpr ⟨?_, Formals.names_distinct (asMethod params owner) compiles⟩
  rw [formals_names]
  exact clear _ (by decide)

include plain

theorem plain_distinct (other : Text) : (params.names.map (nameWithin other)).Nodup := by
  rw [List.map_congr_left fun name member => name_within_plain other name (plain name member), List.map_id']
  exact (formals_names_perm params).nodup_iff.mp (Formals.names_distinct (asMethod params owner) compiles)

theorem other_method_compiles (other : Text) : (asMethod params other).Compiles :=
  (method_compiles_iff params other).mpr
    ⟨plain_distinct params plain owner compiles other, ((method_compiles_iff params owner).mp compiles).2⟩

theorem body_compiles (unreserved : ∀ name ∈ Validation.bodyArguments, name ∉ params.names) :
    (asBody params).Compiles := by
  refine (body_compiles_iff params).mpr ⟨plain_distinct params plain owner compiles [], ?_⟩
  intro name taken
  rcases List.mem_cons.mp taken with rfl | front
  · exact ((method_compiles_iff params owner).mp compiles).2 _ (by decide)
  · exact unreserved name ((List.Perm.swap _ _ []).mem_iff.mp front)

end Compiling

theorem hands_on (owner : Text) (compiles : (asMethod params owner).Compiles) (arguments : Arguments Value)
    (bindings : List (Text × Bound Value)) (bound : (asMethod params owner).bind arguments = some bindings) :
    HandsOn params (asMethod params owner) arguments bindings ((formalsOf params).forward bindings) := by
  obtain ⟨apart, filling, heads, same, collected⟩ := Formals.bind_filling _ _ _ bound
  obtain rfl : bindings = filling.bindings (formalsOf params) := same
  have fits := (Formals.fits_headed _ filling _ _).mp heads
  have distinct := method_distinct params owner compiles
  have names := (List.nodup_cons.mp distinct).2
  have apartCollected : (filling.collected.map (·.1)).Nodup := by
    rw [collected]
    exact (List.filter_sublist.map _).nodup apart
  have again := fun inner front compiles plain =>
    Formals.taken_again_iff (formalsOf params) filling inner front compiles plain fits apartCollected
  rw [Formals.forward_eq _ _ names fits]
  constructor
  case supplied =>
    intro classes self
    refine handing_supplies classes _ params filling fits (knows_locals [(Text.fixed "self", self)] _ ?_)
    exact (List.Perm.append_left [Text.fixed "self"] (Formals.bindings_names _ filling fits)).nodup_iff.mpr distinct
  case again =>
    intro receiver takes compiles
    obtain ⟨inner, front, rfl, plain⟩ := receiver_headed params receiver takes
    rw [again inner front compiles plain, collected]
  case methods =>
    intro plain inner
    refine (again inner [Text.fixed "self"] (other_method_compiles params plain owner compiles inner) (by decide)).mpr ?_
    rw [collected, plain_receives_iff params plain]
    intro entry member known
    have foreign := (List.mem_filter.mp member).2
    simp only [Bool.not_eq_true', List.contains_eq_mem, decide_eq_false_iff_not] at foreign
    exact foreign (List.mem_append_left _ known)
  case bodies =>
    intro plain unreserved
    rw [again [] _ (body_compiles params plain owner compiles unreserved) (by decide), collected, plain_receives_iff params plain]
    exact body_front_iff params plain unreserved owner arguments

end Handing

/-- A list of parameters that is accepted and can be handed on reads alone as it reads behind the object, and what is
handed on names each parameter. Whatever a method with that list binds, the arguments of its call evaluate to the values
of its parameters, and another function with the list binds them to the same names exactly if it is called by the names
of its parameters and has no parameter that a collected name means. Without private names that is so for the methods of
all classes, and for the function behind a method unless an option is called like a parameter in front of the list. -/
theorem parameters_handed_on (text : Text) (params : Code.Params) (accepted : Code.readMethodParams text = .ok params)
    (handed : Code.Reads (Code.forwardingText text)) (owner : Text) (compiles : (asMethod params owner).Compiles)
    (arguments : Arguments Value) (bindings : List (Text × Bound Value))
    (bound : (asMethod params owner).bind arguments = some bindings) :
    Code.readParams text = .ok params ∧ Code.forwardingText text = .ok (Text.join ", " params.forwarding) ∧
      List.Forall₂ Code.Writes params.handing params.forwarding ∧
      HandsOn params (asMethod params owner) arguments bindings ((formalsOf params).forward bindings) :=
  ⟨Code.alone_of_handed text params accepted handed, Code.written_of_handed text params accepted handed,
    params.forwarding_written, hands_on params owner compiles arguments bindings bound⟩

-- A list with parameters of every kind, and a call with an option that is named like what the body gets first.
def gaugeParams : Text := "a, /, b=2, *c, d, **e"

def gaugeList : Code.Params :=
  ⟨[⟨"a", none, none⟩], [⟨"b", none, some (.constant (.number (.integer 2)))⟩], some ⟨"c", none, none⟩,
    [⟨"d", none, none⟩], some ⟨"e", none, none⟩⟩

def gaugeArguments : Arguments Value :=
  { positional := [.number 1, .number 3, .number 4], named := [("d", .number 5), ("state", .number 6)] }

def gaugeBindings : List (Text × Bound Value) :=
  [("a", .one (.number 1)), ("b", .one (.number 3)), ("c", .rest [.number 4]), ("d", .one (.number 5)),
    ("e", .keywords [("state", .number 6)])]

theorem gauge_handed_on :
    Code.readMethodParams gaugeParams = .ok gaugeList ∧
      (asMethod gaugeList "GaugeOpen").bind gaugeArguments = some gaugeBindings ∧
      Code.forwardingText gaugeParams = .ok "a, b, *c, d=d, **e" ∧
      (asMethod gaugeList "Open").bind ((formalsOf gaugeList).forward gaugeBindings) = some gaugeBindings ∧
      (asBody gaugeList).bind ((formalsOf gaugeList).forward gaugeBindings) = some gaugeBindings := by
  have accepted : Code.readMethodParams gaugeParams = .ok gaugeList := by rfl
  have handed : Code.Reads (Code.forwardingText gaugeParams) := by
    have alone := Code.alone_of_after_object gaugeParams gaugeList rfl accepted (by decide +kernel)
    refine ⟨Text.join ", " gaugeList.forwarding, ?_⟩
    rw [Code.forwardingText, alone]
    rfl
  have compiles : (asMethod gaugeList "GaugeOpen").Compiles := by
    unfold Formals.Compiles
    decide
  have bound : (asMethod gaugeList "GaugeOpen").bind gaugeArguments = some gaugeBindings := rfl
  have plain : ∀ name ∈ gaugeList.names, isPrivate name = false := by decide
  obtain ⟨_, written, _, handsOn⟩ := parameters_handed_on gaugeParams gaugeList accepted handed "GaugeOpen" compiles
    gaugeArguments gaugeBindings bound
  exact ⟨accepted, bound, written, handsOn.methods plain "Open",
    (handsOn.bodies plain (by decide)).mpr (.inl (List.cons_ne_nil _ _))⟩

-- The same option, where no parameter is positional only.
def optionList : Code.Params := ⟨[], [], none, [], some ⟨"options", none, none⟩⟩

def optionArguments : Arguments Value := { named := [("state", .number 1)] }

def optionBindings : List (Text × Bound Value) := [("options", .keywords [("state", .number 1)])]

def valveSpec : Spec :=
  { kind := .deterministic, name := "Valve", context := "list"
    states := [{ name := "Open", transitions := [{ source := "Open", trigger := "turn", params := "**options" }] }] }

def valveWorld : TypedWorld Contents :=
  { machines := [⟨"Open", some (.object "Open" [], 0)⟩], contexts := [[]] }

-- The method takes an option named `state`, and the call of the function behind it fails on two values for that name.
theorem option_not_handed_on :
    let method := asMethod optionList "ValveOpen"
    let body := asBody optionList
    valveSpec.validate = .ok () ∧ Code.readMethodParams "**options" = .ok optionList ∧
      Code.forwardingText "**options" = .ok "**options" ∧ (Text.fixed "self" :: optionList.names).Nodup ∧
      method.bind optionArguments = some optionBindings ∧ body.bind (method.forward optionBindings) = none ∧
      (TypedWorld.call valveSpec (Program.ofSpec valveSpec).conduct valveWorld 0 "turn" optionArguments).1.map
        (fun _ => ()) = .error .mismatch := by
  exact ⟨by decide +kernel, by rfl, by rfl, by decide, rfl, rfl, by decide +kernel⟩

end Machine

end Statewright
