import Mathlib.Data.Set.Card
import WireShapes.Proofs.Code.Ledger
import WireShapes.Proofs.Code.Written

/-!
Which functions a sequence of requests comes to.

* `Request`: the writer or the reader of a shape, or the reader of texts that hold a document of it
* `Wanted`: what is requested, and what that refers to through any number of members
* `functions_closed`: exactly the functions that are wanted are written, each once, and they call no others
-/

namespace WireShapes.Code

open Generator Relation

inductive Request
  | writes (shape : Shape)
  | reads (shape : Shape)
  | readsText (shape : Shape)

namespace Request

def shape : Request → Shape
  | writes shape => shape
  | reads shape => shape
  | readsText shape => shape

def recipe : Request → Recipe
  | writes _ => .writers
  | reads _ => .readers
  | readsText _ => .documents

def run (s : Scope) : Request → Generator String
  | writes shape => writerFunction s shape
  | reads shape => readerFunction s shape
  | readsText shape => documentReader s shape

def key (r : Request) : FunctionKey := (r.shape.id, r.recipe.form)

end Request

/-- The functions that requests come to: those for the shapes that are requested and all that these refer to, and
the readers of texts that are requested. -/
inductive Wanted (s : Scope) (requests : List Request) : FunctionKey → Prop
  | reached {r : Request} {b : Shape} (hr : r ∈ requests) (hpath : ReflTransGen s.Refers r.shape b) :
    Wanted s requests (b.id, r.recipe.asks)
  | text {shape : Shape} (hr : .readsText shape ∈ requests) : Wanted s requests (shape.id, .textReader)

def Function.key (g : Function) : FunctionKey := (g.shape, g.form)

variable {s : Scope} {requests : List Request} {names : List String} {f : Functions}

/-! ### What is written -/

theorem keys_of_balance (h : ([] ++ f.written.map Function.entry).Perm f.known) :
    (f.written.map Function.key).Perm (f.known.map Prod.fst) := by
  have hkeys := h.map Prod.fst
  rw [List.nil_append, List.map_map] at hkeys
  exact hkeys

theorem Ledger.keys (h : Ledger s [] f) : (f.written.map Function.key).Perm (f.known.map Prod.fst) :=
  keys_of_balance h.balance

theorem Ledger.known_iff (h : Ledger s [] f) {key : FunctionKey} :
    Known f key ↔ key ∈ f.written.map Function.key :=
  h.keys.symm.mem_iff

theorem Recipe.eq_of_form {T T' : Recipe} (hT : T ∈ Recipe.all) (hT' : T' ∈ Recipe.all) (h : T.form = T'.form) :
    T = T' := by
  simp only [Recipe.all, List.mem_cons, List.not_mem_nil, or_false] at hT hT'
  rcases hT with rfl | rfl | rfl <;> rcases hT' with rfl | rfl | rfl <;> first | rfl | cases h

/-- A function that is known follows the recipe of its form. -/
theorem Ledger.follows_of_known (h : Ledger s [] f) {T : Recipe} (hT : T ∈ Recipe.all) {a : Shape}
    (ha : s.Listed a) (hknown : Known f (a.id, T.form)) : ∃ g ∈ f.written, g.Follows s f.known T a := by
  obtain ⟨g, hg, hkey⟩ := List.mem_map.1 (h.known_iff.1 hknown)
  obtain ⟨T', hT', shape, hfollows⟩ := h.follows g hg
  obtain ⟨hid, hform⟩ := Prod.mk.inj hkey
  obtain rfl : T = T' := Recipe.eq_of_form hT hT' (hform.symm.trans hfollows.form)
  have hlisted := hfollows.listed
  rw [hid] at hlisted
  obtain rfl : a = shape := Option.some.inj (ha.symm.trans hlisted)
  exact ⟨g, hg, hfollows⟩

/-- Where the recipe asks for functions of its own form, all that is reached is known. -/
theorem Ledger.known_of_reached (h : Ledger s [] f) {T : Recipe} (hT : T ∈ Recipe.all) (hself : T.asks = T.form)
    (hlisted : ∀ a b, T.refers s a b → s.Listed b) {a b : Shape} (ha : s.Listed a)
    (hknown : Known f (a.id, T.form)) (hpath : ReflTransGen (T.refers s) a b) :
    s.Listed b ∧ Known f (b.id, T.form) := by
  induction hpath with
  | refl => exact ⟨ha, hknown⟩
  | @tail c d _ hrefers ih =>
    obtain ⟨g, -, hfollows⟩ := h.follows_of_known hT ih.1 ih.2
    refine ⟨hlisted c d hrefers, ?_⟩
    rw [← hself]
    exact hfollows.refers d hrefers

/-! ### Requests -/

theorem listed_of_refers (a b : Shape) (h : s.Refers a b) : s.Listed b := Scope.Mentions.listed h

theorem serves_writerFunction {shape : Shape} (h : s.Listed shape) :
    Serves s (shape.id, .writer) (writerFunction s shape) := by
  rw [writerFunction_eq]
  exact serves_within (T := .writers) Recipe.writers_mem rfl listed_of_refers _ h

theorem serves_readerFunction {shape : Shape} (h : s.Listed shape) :
    Serves s (shape.id, .reader) (readerFunction s shape) := by
  rw [readerFunction_eq]
  exact serves_within (T := .readers) Recipe.readers_mem rfl listed_of_refers _ h

/-- **Every request keeps the ledger, and is answered with a function that is known.** -/
theorem Request.serves (r : Request) (h : s.Listed r.shape) : Serves s r.key (r.run s) := by
  cases r with
  | writes shape => exact serves_writerFunction h
  | reads shape => exact serves_readerFunction h
  | readsText shape =>
    refine serves_request (T := .documents) Recipe.documents_mem h ?_
    rintro _ rfl
    exact serves_readerFunction h

/-- What becomes known with a function for the shape of a request is wanted. -/
theorem Request.learns_within {T : Recipe} (hT : T.Sound) (hrefers : T.refers s = s.Refers) {r : Request}
    (hr : r ∈ requests) (hasks : r.recipe.asks = T.form) (nameOf : ShapeId → String) (fault : Reason) (depth : Nat) :
    Moves (Learns (Wanted s requests)) (T.within nameOf fault s depth r.shape) := by
  intro f name f' h
  refine (Code.learns_within hT depth r.shape f name f' h).mono ?_
  rintro key ⟨b, hpath, rfl⟩
  rw [hrefers] at hpath
  have hwanted := Wanted.reached hr hpath
  rwa [hasks] at hwanted

/-- **Every request makes known only what is wanted.** -/
theorem Request.learns {r : Request} (hr : r ∈ requests) : Moves (Learns (Wanted s requests)) (r.run s) := by
  cases r with
  | writes shape =>
    rw [Request.run, writerFunction_eq]
    exact Request.learns_within (r := .writes shape) Recipe.sound_writers rfl hr rfl _ _ _
  | reads shape =>
    rw [Request.run, readerFunction_eq]
    exact Request.learns_within (r := .reads shape) Recipe.sound_readers rfl hr rfl _ _ _
  | readsText shape =>
    refine learns_request (.text hr) ?_
    refine Recipe.sound_documents.paired (c := readerFunction s) (course_learns _).pairing _ ?_
    rintro _ rfl
    rw [readerFunction_eq]
    exact Request.learns_within (r := .readsText _) Recipe.sound_readers rfl hr rfl _ _ _

theorem Request.known_of_reached (h : Ledger s [] f) {r : Request} (hlisted : s.Listed r.shape)
    (hknown : Known f r.key) {b : Shape} (hpath : ReflTransGen s.Refers r.shape b) :
    Known f (b.id, r.recipe.asks) := by
  cases r with
  | writes shape =>
    exact (h.known_of_reached (T := .writers) Recipe.writers_mem rfl listed_of_refers hlisted hknown hpath).2
  | reads shape =>
    exact (h.known_of_reached (T := .readers) Recipe.readers_mem rfl listed_of_refers hlisted hknown hpath).2
  | readsText shape =>
    obtain ⟨g, -, hfollows⟩ := h.follows_of_known (T := .documents) Recipe.documents_mem hlisted hknown
    have hreader : Known f (shape.id, .reader) := hfollows.refers shape rfl
    exact (h.known_of_reached (T := .readers) Recipe.readers_mem rfl listed_of_refers hlisted hreader hpath).2

/-! ### Only structures, unions, lists and maps have functions -/

theorem aggregate_of_writerCode {call : Shape → Generator String} {name : String} {shape : Shape} {code : List Step}
    (h : Gives (writerCode s call name shape) code) : Aggregate shape := by
  obtain ⟨f, f', h⟩ := h
  unfold writerCode at h
  unfold Aggregate Shape.isInline Shape.isStruct Shape.isUnion Shape.isCollection
  cases hkind : shape.kind <;> simp only [hkind] at h ⊢
  case struct => simp
  case union => simp
  case list => simp
  case map => simp
  all_goals exact (not_runs_throw h).elim

theorem aggregate_of_readerCode {call : Shape → Generator String} {name : String} {shape : Shape} {code : List Step}
    (h : Gives (readerCode s call name shape) code) : Aggregate shape := by
  obtain ⟨f, f', h⟩ := h
  unfold readerCode at h
  unfold Aggregate Shape.isInline Shape.isStruct Shape.isUnion Shape.isCollection
  cases hkind : shape.kind <;> simp only [hkind] at h ⊢
  case struct => simp
  case union => simp
  case list => simp
  case map => simp
  all_goals exact (not_runs_throw h).elim

theorem Request.aggregate_of_known (h : Ledger s [] f) {r : Request} (hlisted : s.Listed r.shape)
    (hknown : Known f r.key) : Aggregate r.shape := by
  have hasked := r.known_of_reached h hlisted hknown .refl
  cases r with
  | writes shape =>
    obtain ⟨g, -, hfollows⟩ := h.follows_of_known (T := .writers) Recipe.writers_mem hlisted hasked
    obtain ⟨call, -, hgives⟩ := hfollows.code
    exact aggregate_of_writerCode hgives
  | reads shape =>
    obtain ⟨g, -, hfollows⟩ := h.follows_of_known (T := .readers) Recipe.readers_mem hlisted hasked
    obtain ⟨call, -, hgives⟩ := hfollows.code
    exact aggregate_of_readerCode hgives
  | readsText shape =>
    obtain ⟨g, -, hfollows⟩ := h.follows_of_known (T := .readers) Recipe.readers_mem hlisted hasked
    obtain ⟨call, -, hgives⟩ := hfollows.code
    exact aggregate_of_readerCode hgives

/-! ### The bound -/

theorem length_unknown_lt {form : FunctionForm} {depth : Nat} (h : s.model.shapes.length < depth) (f : Functions) :
    (unknown s form f).length < depth := by
  have hle := length_missing_le (s.model.shapes.map fun shape => (shape.id, form)) (f.known.map Prod.fst)
  rw [List.length_map] at hle
  exact lt_of_le_of_lt hle h

/-- A greater bound on the functions that are begun at once changes nothing. -/
theorem Recipe.within_of_lt {T : Recipe} (hT : T.Sound) (hlisted : ∀ a b, T.refers s a b → s.Listed b)
    (nameOf : ShapeId → String) (fault : Reason) {depth : Nat} (h : s.model.shapes.length < depth) {shape : Shape}
    (hshape : s.Listed shape) :
    T.within nameOf fault s depth shape = T.within nameOf fault s (s.model.shapes.length + 1) shape := by
  funext f
  exact (runAlike_within hT hlisted _ h (Nat.le_refl _) hshape).2 f (length_unknown_lt (Nat.lt_succ_self _) f)

/-- **Exactly the functions that are wanted are written, each once.** Only structures, unions, lists and maps have
functions; every answer is the name of a function that is written, and so are all names that the written code calls.
Generation ends by itself: a greater bound on the functions that are begun at once changes no run. -/
theorem functions_closed (hlisted : ∀ r ∈ requests, s.Listed r.shape)
    (h : Runs (requests.mapM (Request.run s)) {} names f) :
    (f.written.map Function.key).Nodup ∧
    (∀ key, key ∈ f.written.map Function.key ↔ Wanted s requests key) ∧
    f.written.length = {key | Wanted s requests key}.ncard ∧
    (∀ r ∈ requests, Aggregate r.shape) ∧
    List.Forall₂ (fun r name => ∃ g ∈ f.written, g.Is r.key name) requests names ∧
    (∀ g ∈ f.written, ∃ T ∈ Recipe.all, ∃ shape, g.Follows s (f.written.map Function.entry) T shape) ∧
    (∀ shape, s.Listed shape → ∀ depth, s.model.shapes.length < depth →
      writerWithin s depth shape = writerFunction s shape ∧
        readerWithin s depth shape = readerFunction s shape) := by
  have hR := course_proceeds s
  have hmoves : ∀ r ∈ requests, Moves (Proceeds s) (r.run s) := fun r hr => (r.serves (hlisted r hr)).moves
  have hledger : Ledger s [] f := (Moves.mapM hR hmoves _ _ _ h).ledger [] (ledger_nil s)
  have hmarks : ∀ r ∈ requests, Known f r.key := by
    intro r hr
    exact marks_mapM hr (r.serves (hlisted r hr)).marks (fun q hq => (hmoves q hq).remembers) _ _ _ h
  have hnodup : (f.written.map Function.key).Nodup := hledger.keys.nodup_iff.2 hledger.once
  have hwanted : ∀ key, key ∈ f.written.map Function.key ↔ Wanted s requests key := by
    intro key
    rw [← hledger.known_iff]
    constructor
    · intro hknown
      have hlearns := Moves.mapM (course_learns _) (fun r hr => Request.learns hr) _ _ _ h key hknown
      exact hlearns.resolve_left (by simp [Known])
    · rintro (⟨hr, hpath⟩ | hr)
      · exact Request.known_of_reached hledger (hlisted _ hr) (hmarks _ hr) hpath
      · exact hmarks _ hr
  refine ⟨hnodup, hwanted, ?_, ?_, ?_, ?_, ?_⟩
  · have hset : {key | Wanted s requests key} = ((f.written.map Function.key).toFinset : Set FunctionKey) := by
      ext key
      rw [List.coe_toFinset]
      exact (hwanted key).symm
    rw [hset, Set.ncard_coe_finset, List.toFinset_card_of_nodup hnodup, List.length_map]
  · exact fun r hr => r.aggregate_of_known hledger (hlisted r hr) (hmarks r hr)
  · have hall := runs_mapM hR hmoves h
    have hserved := (List.forall₂_and_left requests names).2 ⟨hlisted, hall⟩
    refine hserved.imp ?_
    rintro r name ⟨hr, before, after, -, hrun, hafter⟩
    have hmem := hafter.remembers.subset ((r.serves hr).answers before name after hrun)
    obtain ⟨g, hg, hentry⟩ := List.mem_map.1 (hledger.balance.symm.subset hmem)
    obtain ⟨hkey, hname⟩ := Prod.mk.inj hentry
    exact ⟨g, hg, congrArg Prod.fst hkey, congrArg Prod.snd hkey, hname⟩
  · intro g hg
    obtain ⟨T, hT, shape, hfollows⟩ := hledger.follows g hg
    exact ⟨T, hT, shape, hfollows.mono hledger.balance.symm.subset⟩
  · intro shape hshape depth hdepth
    rw [writerWithin_eq, readerWithin_eq, writerFunction_eq, readerFunction_eq]
    exact ⟨Recipe.within_of_lt Recipe.sound_writers listed_of_refers _ _ hdepth hshape,
      Recipe.within_of_lt Recipe.sound_readers listed_of_refers _ _ hdepth hshape⟩

/-! ### A cycle -/

/-- A structure that holds itself through a list, and an event stream. -/
def node : Shape :=
  ⟨⟨"t#Node"⟩, .struct [⟨"nodes", ⟨"t#Nodes"⟩, {}⟩, ⟨"feed", ⟨"t#Feed"⟩, {}⟩], {}⟩

def nodes : Shape := ⟨⟨"t#Nodes"⟩, .list ⟨"member", ⟨"t#Node"⟩, {}⟩, {}⟩

def feed : Shape := ⟨⟨"t#Feed"⟩, .union [⟨"node", ⟨"t#Node"⟩, {}⟩], { streaming := true }⟩

def nodeScope : Scope := ⟨⟨[node, nodes, feed]⟩, .client, [], []⟩

def nodeRequests : List Request := [.writes node, .readsText node, .writes nodes]

/-- The list and the structure are written once each, though each of them is asked for twice, and the event stream
is not written at all. -/
theorem nodes_closed :
    (∀ r ∈ nodeRequests, nodeScope.Listed r.shape) ∧
    ∃ names f, Runs (nodeRequests.mapM (Request.run nodeScope)) {} names f ∧
      f.written.map Function.key =
        [(nodes.id, .writer), (node.id, .writer), (nodes.id, .reader), (node.id, .reader), (node.id, .textReader)] ∧
      {key | Wanted nodeScope nodeRequests key}.ncard = 5 ∧
      ¬Wanted nodeScope nodeRequests (feed.id, .writer) := by
  have hlisted : ∀ r ∈ nodeRequests, nodeScope.Listed r.shape := by
    intro r hr
    simp only [nodeRequests, List.mem_cons, List.not_mem_nil, or_false] at hr
    rcases hr with rfl | rfl | rfl <;> rfl
  obtain ⟨names, hnames⟩ : ∃ names, (nodeRequests.mapM (Request.run nodeScope) {}).1 = .ok names :=
    Results.exists_of_isSome (by decide +kernel)
  have hrun : Runs (nodeRequests.mapM (Request.run nodeScope)) {} names _ := Prod.ext hnames rfl
  obtain ⟨-, hwanted, hcount, -⟩ := functions_closed hlisted hrun
  refine ⟨hlisted, names, _, hrun, by decide +kernel, hcount.symm.trans (by decide +kernel), ?_⟩
  rw [← hwanted]
  decide +kernel

end WireShapes.Code
