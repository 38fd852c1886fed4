import ShardedSql.Proofs.Parser.Sorting
import ShardedSql.Proofs.Strategy.Numbering

/-!
# Columns that the select list hides

Results of several tables are merged by the columns that the statement sorts and groups by.  A column that
the select list does not show is added behind it, under an alias of its own.  Whether it is shown is guessed
from the texts of the items.  The main statement says which guesses are right and which are not, and that
every column is added that no item seems to show.
-/

namespace ShardedSql

namespace Statement

/-- Whether a text may be the owner of a column: a name, or several names with points between them. -/
def IsOwner (text : String) : Prop :=
  text ≠ "" ∧ ∀ character ∈ text.toList, Lexer.isNameCharacter character = true ∨ character = '.'

section Points

variable {text : String}

theorem exists_split_at_lastPoint (hasPoint : '.' ∈ text.toList) :
    ∃ front, text = front ++ "." ++ behindLastPoint text := by
  have split := List.takeWhile_append_dropWhile (p := fun character => character != '.')
    (l := text.toList.reverse)
  cases rest : text.toList.reverse.dropWhile (· != '.') with
  | nil =>
      rw [rest, List.append_nil] at split
      have isThere : '.' ∈ text.toList.reverse.takeWhile (· != '.') := by
        rw [split]
        exact List.mem_reverse.mpr hasPoint
      have differs := List.mem_takeWhile_imp isThere
      simp at differs
  | cons point front =>
      have isPoint : point = '.' := by
        have stops := List.head?_dropWhile_not (· != '.') text.toList.reverse
        rw [rest] at stops
        simpa using stops
      rw [rest, isPoint] at split
      have forward := congrArg List.reverse split
      rw [List.reverse_reverse] at forward
      refine ⟨String.ofList front.reverse, String.toList_injective (forward.symm.trans ?_)⟩
      simp [behindLastPoint]

theorem notMem_behindLastPoint (text : String) :
    '.' ∉ (behindLastPoint text).toList := by
  intro isThere
  rw [behindLastPoint, String.toList_ofList, List.mem_reverse] at isThere
  have differs := List.mem_takeWhile_imp isThere
  simp at differs

theorem areNoPoints_reverse (noPoint : '.' ∉ text.toList) :
    ∀ character ∈ text.toList.reverse, (character != '.') = true := by
  intro character member
  rw [bne_iff_ne]
  exact fun isPoint => noPoint (isPoint ▸ List.mem_reverse.mp member)

theorem behindLastPoint_of_notMem (noPoint : '.' ∉ text.toList) :
    behindLastPoint text = text := by
  rw [behindLastPoint, List.takeWhile_eq_self_iff.mpr (areNoPoints_reverse noPoint), List.reverse_reverse,
    String.ofList_toList]

theorem behindLastPoint_append
    (front : String)
    (noPoint : '.' ∉ text.toList) :
    behindLastPoint (front ++ "." ++ text) = text := by
  rw [behindLastPoint, String.toList_append, String.toList_append, List.reverse_append, List.reverse_append,
    List.takeWhile_append_of_pos (areNoPoints_reverse noPoint)]
  simp

end Points

end Statement

namespace SelectItem

/-- Whether an item of a select list holds the column with a name that an order is by: a star, the column
with or without its owner, and for a column without an owner also one with any owner, or an alias.  Items
are held without quotes. -/
inductive Delivers (order : OrderItem) (name : String) : SelectItem → Prop where
  | star : Delivers order name (.star none)
  | ownedStar
      {owner present : String}
      (isOwner : order.owner = some present)
      (same : Text.sameName present owner = true) :
      Delivers order name (.star (some owner))
  | column
      {item : SelectItem}
      (notStar : ∀ owner, item ≠ .star owner)
      (same : Text.sameName item.expression name = true) :
      Delivers order name item
  | qualified
      {item : SelectItem}
      {owner : String}
      (notStar : ∀ owner, item ≠ .star owner)
      (isOwner : order.owner = some owner)
      (same : Text.sameName item.expression (owner ++ "." ++ name) = true) :
      Delivers order name item
  | owned
      {item : SelectItem}
      {owner column : String}
      (notStar : ∀ owner, item ≠ .star owner)
      (bare : order.owner = none)
      (split : item.expression = owner ++ "." ++ column)
      (isOwner : Statement.IsOwner owner)
      (noPoint : '.' ∉ column.toList)
      (same : Text.sameName column name = true) :
      Delivers order name item
  | aliased
      {item : SelectItem}
      {aliasName : String}
      (bare : order.owner = none)
      (isAlias : item.alias? = some aliasName)
      (same : Text.sameName aliasName name = true) :
      Delivers order name item

/-- Whether an item is mistaken for a column that it does not hold: by an alias that is the name of a
column with an owner, or because its text ends in the name behind a point, when what stands in front of the
point is more than an owner.  Quotes are not held, so that an owner with characters that no name has without
them counts as more than an owner. -/
inductive Misleads (order : OrderItem) (name : String) : SelectItem → Prop where
  | aliased
      {item : SelectItem}
      {owner aliasName : String}
      (isOwner : order.owner = some owner)
      (isAlias : item.alias? = some aliasName)
      (same : Text.sameName aliasName name = true) :
      Misleads order name item
  | ending
      {item : SelectItem}
      {front column : String}
      (notStar : ∀ owner, item ≠ .star owner)
      (bare : order.owner = none)
      (split : item.expression = front ++ "." ++ column)
      (noOwner : ¬ Statement.IsOwner front)
      (noPoint : '.' ∉ column.toList)
      (same : Text.sameName column name = true) :
      Misleads order name item

end SelectItem

namespace Statement

section Shown

variable {order : OrderItem} {name : String}

/-- What an item that is no star shows. -/
theorem shows_of_notStar
    {item : SelectItem}
    (notStar : ∀ owner, item ≠ .star owner) :
    shows item order name =
      (item.alias?.any (fun aliasName => Text.sameName aliasName name) ||
        Text.sameName item.expression (order.qualifiedName?.getD "") ||
        Text.sameName item.expression name ||
        (order.owner.isNone && Text.sameName (behindLastPoint item.expression) name)) := by
  cases item with
  | star owner => exact absurd rfl (notStar owner)
  | common => rfl
  | aggregation => rfl

/-- A star shows the column just when it holds it. -/
theorem shows_star_iff (owner : Option String) :
    shows (.star owner) order name = true ↔ (SelectItem.star owner).Delivers order name := by
  constructor
  · intro isShown
    cases owner with
    | none => exact .star
    | some owner =>
        obtain ⟨present, isOwner, same⟩ := (Option.any_eq_true _ _).mp isShown
        exact .ownedStar isOwner same
  · intro delivers
    cases delivers with
    | star => rfl
    | ownedStar isOwner same => exact (Option.any_eq_true _ _).mpr ⟨_, isOwner, same⟩
    | column notStar => exact absurd rfl (notStar owner)
    | qualified notStar => exact absurd rfl (notStar owner)
    | owned notStar => exact absurd rfl (notStar owner)
    | aliased _ isAlias => cases isAlias

/-- The ending of a text without an owner in front of it. -/
theorem delivers_or_misleads_of_ending
    {item : SelectItem}
    (notStar : ∀ owner, item ≠ .star owner)
    (bare : order.owner = none)
    (same : Text.sameName (behindLastPoint item.expression) name = true) :
    item.Delivers order name ∨ item.Misleads order name := by
  by_cases hasPoint : '.' ∈ item.expression.toList
  · obtain ⟨front, split⟩ := exists_split_at_lastPoint hasPoint
    have noPoint := notMem_behindLastPoint item.expression
    by_cases isOwner : IsOwner front
    · exact .inl (.owned notStar bare split isOwner noPoint same)
    · exact .inr (.ending notStar bare split isOwner noPoint same)
  · rw [behindLastPoint_of_notMem hasPoint] at same
    exact .inl (.column notStar same)

/-- **An item is taken to show a column if it holds it or is mistaken for it.** -/
theorem shows_iff
    (isName : order.name = some name)
    (item : SelectItem) :
    shows item order name = true ↔ item.Delivers order name ∨ item.Misleads order name := by
  by_cases isStar : ∃ owner, item = .star owner
  · obtain ⟨owner, rfl⟩ := isStar
    rw [shows_star_iff]
    refine ⟨Or.inl, fun either => either.resolve_right ?_⟩
    rintro (⟨_, isAlias, _⟩ | ⟨notStar, _, _, _, _, _⟩)
    · cases isAlias
    · exact notStar owner rfl
  have notStar : ∀ owner, item ≠ .star owner := fun owner isOwner => isStar ⟨owner, isOwner⟩
  rw [shows_of_notStar notStar, OrderItem.qualifiedName?, isName]
  simp only [Bool.or_eq_true, Bool.and_eq_true, Option.any_eq_true]
  constructor
  · rintro (((⟨aliasName, isAlias, same⟩ | same) | same) | ⟨isBare, same⟩)
    · cases isOwner : order.owner with
      | none => exact .inl (.aliased isOwner isAlias same)
      | some owner => exact .inr (.aliased isOwner isAlias same)
    · cases isOwner : order.owner with
      | none =>
          rw [isOwner] at same
          exact .inl (.column notStar same)
      | some owner =>
          rw [isOwner] at same
          exact .inl (.qualified notStar isOwner same)
    · exact .inl (.column notStar same)
    · exact delivers_or_misleads_of_ending notStar (Option.isNone_iff_eq_none.mp isBare) same
  · rintro (delivers | misleads)
    · cases delivers with
      | star => exact absurd rfl (notStar none)
      | ownedStar => exact absurd rfl (notStar _)
      | column _ same => exact .inl (.inr same)
      | qualified _ isOwner same =>
          rw [isOwner]
          exact .inl (.inl (.inr same))
      | owned _ bare split _ noPoint same =>
          rw [split, behindLastPoint_append _ noPoint]
          exact .inr ⟨by rw [bare]; rfl, same⟩
      | aliased _ isAlias same => exact .inl (.inl (.inl ⟨_, isAlias, same⟩))
    · cases misleads with
      | aliased _ isAlias same => exact .inl (.inl (.inl ⟨_, isAlias, same⟩))
      | ending _ bare split _ noPoint same =>
          rw [split, behindLastPoint_append _ noPoint]
          exact .inr ⟨by rw [bare]; rfl, same⟩

end Shown

/-- Whether a column to sort or group by is added to the select list. -/
def isMissing
    (items : List SelectItem)
    (order : OrderItem) : Bool :=
  order.qualifiedName?.isSome && order.index.isNone && !isProjected items order

/-- The text by which a column is added under its alias. -/
def addedColumn (order : OrderItem) : String :=
  order.qualifiedName?.getD "" ++ " AS " ++ order.aliasName.getD ""

section Aliases

variable (stem : String) (items : List SelectItem) (count : Nat)

theorem aliasMissing_cons_of_missing
    {order : OrderItem}
    (missing : isMissing items order = true)
    (rest : List OrderItem) :
    aliasMissing stem items count (order :: rest) =
      ({ order with aliasName := some (missingAlias stem count) } ::
          (aliasMissing stem items (count + 1) rest).1,
        addedColumn { order with aliasName := some (missingAlias stem count) } ::
          (aliasMissing stem items (count + 1) rest).2) := by
  simp only [isMissing, Bool.and_eq_true] at missing
  obtain ⟨⟨isNamed, noIndex⟩, isHidden⟩ := missing
  obtain ⟨qualified, isQualified⟩ := Option.isSome_iff_exists.mp isNamed
  have sameName : ∀ aliasName,
      OrderItem.qualifiedName? { order with aliasName := aliasName } = some qualified :=
    fun _ => isQualified
  simp only [aliasMissing, isQualified, noIndex, isHidden, Bool.and_self, if_true, addedColumn, sameName,
    Option.getD_some]

theorem aliasMissing_cons_of_shown
    {order : OrderItem}
    (shown : isMissing items order = false)
    (rest : List OrderItem) :
    aliasMissing stem items count (order :: rest) =
      (order :: (aliasMissing stem items count rest).1, (aliasMissing stem items count rest).2) := by
  cases isQualified : order.qualifiedName? with
  | none => simp only [aliasMissing, isQualified]
  | some qualified =>
      rw [isMissing, isQualified, Option.isSome_some, Bool.true_and] at shown
      simp only [aliasMissing, isQualified, shown, Bool.false_eq_true, if_false]

/-- The items that are added are those of the columns that are missing, under their aliases. -/
theorem aliasMissing_added (orders : List OrderItem) :
    (aliasMissing stem items count orders).2 =
      ((aliasMissing stem items count orders).1.filter (isMissing items)).map addedColumn := by
  induction orders generalizing count with
  | nil => rfl
  | cons order rest ih =>
      cases missing : isMissing items order with
      | true =>
          have stillMissing :
              isMissing items { order with aliasName := some (missingAlias stem count) } = true :=
            missing
          rw [aliasMissing_cons_of_missing stem items count missing, ih, List.filter_cons,
            if_pos stillMissing, List.map_cons]
      | false =>
          rw [aliasMissing_cons_of_shown stem items count missing, ih, List.filter_cons, missing,
            if_neg Bool.false_ne_true]

/-- The aliases of missing columns are numbered. -/
theorem aliasMissing_aliases (orders : List OrderItem) :
    ∃ total, ((aliasMissing stem items count orders).1.filter (isMissing items)).map
      OrderItem.aliasName = (List.range' count total).map fun number =>
        some (missingAlias stem number) := by
  induction orders generalizing count with
  | nil => exact ⟨0, rfl⟩
  | cons order rest ih =>
      cases missing : isMissing items order with
      | true =>
          obtain ⟨total, numbered⟩ := ih (count + 1)
          have stillMissing :
              isMissing items { order with aliasName := some (missingAlias stem count) } = true :=
            missing
          refine ⟨total + 1, ?_⟩
          rw [aliasMissing_cons_of_missing stem items count missing, List.filter_cons,
            if_pos stillMissing, List.map_cons, numbered, List.range'_succ, List.map_cons]
      | false =>
          obtain ⟨total, numbered⟩ := ih count
          refine ⟨total, ?_⟩
          rw [aliasMissing_cons_of_shown stem items count missing, List.filter_cons, missing,
            if_neg Bool.false_ne_true, numbered]

theorem aliasMissing_length (orders : List OrderItem) :
    (aliasMissing stem items count orders).1.length = orders.length := by
  induction orders generalizing count with
  | nil => rfl
  | cons order rest ih =>
      cases missing : isMissing items order with
      | true => rw [aliasMissing_cons_of_missing stem items count missing, List.length_cons, ih,
          List.length_cons]
      | false => rw [aliasMissing_cons_of_shown stem items count missing, List.length_cons, ih,
          List.length_cons]

/-- With their aliases, columns are still columns and positions are positions. -/
theorem aliasMissing_isGiven
    {orders : List OrderItem}
    (areGiven : ∀ order ∈ orders, OrderItem.IsGiven order) :
    ∀ order ∈ (aliasMissing stem items count orders).1, OrderItem.IsGiven order := by
  induction orders generalizing count with
  | nil => exact nofun
  | cons order rest ih =>
      obtain ⟨isGiven, restGiven⟩ := List.forall_mem_cons.mp areGiven
      cases missing : isMissing items order with
      | true =>
          rw [aliasMissing_cons_of_missing stem items count missing]
          refine List.forall_mem_cons.mpr ⟨?_, ih _ restGiven⟩
          cases isGiven with
          | column => exact .column _ _ _ _
          | position => cases missing
      | false =>
          rw [aliasMissing_cons_of_shown stem items count missing]
          exact List.forall_mem_cons.mpr ⟨isGiven, ih _ restGiven⟩

end Aliases

section Naming

variable (stem : String) (items : List SelectItem) (orders : List OrderItem)

/-- No two missing columns have the same alias. -/
theorem pairwise_aliasMissing :
    (aliasMissing stem items 0 orders).1.Pairwise fun first second =>
      isMissing items first = true → isMissing items second = true →
        first.aliasName ≠ second.aliasName := by
  obtain ⟨total, numbered⟩ := aliasMissing_aliases stem items 0 orders
  rw [← List.pairwise_filter, ← List.pairwise_map, numbered]
  refine List.Nodup.map (fun first second same => ?_) List.nodup_range'
  exact toString_injective ((String.append_right_inj stem).mp (Option.some_injective _ same))

theorem exists_number_of_missing
    {order : OrderItem}
    (member : order ∈ (aliasMissing stem items 0 orders).1)
    (missing : isMissing items order = true) :
    ∃ number, order.aliasName = some (missingAlias stem number) := by
  obtain ⟨total, numbered⟩ := aliasMissing_aliases stem items 0 orders
  have isThere : order.aliasName ∈ ((aliasMissing stem items 0 orders).1.filter
      (isMissing items)).map OrderItem.aliasName :=
    List.mem_map_of_mem (List.mem_filter.mpr ⟨member, missing⟩)
  rw [numbered] at isThere
  obtain ⟨number, -, isAlias⟩ := List.mem_map.mp isThere
  exact ⟨number, isAlias.symm⟩

end Naming

end Statement

/-- Whether a column to sort or group by is neither held by an item of a select list nor mistaken for one. -/
def OrderItem.IsHidden
    (order : OrderItem)
    (listed : List SelectItem) : Prop :=
  ∃ name, order.name = some name ∧
    ∀ item ∈ listed, ¬ item.Delivers order name ∧ ¬ item.Misleads order name

namespace Statement

theorem isMissing_iff
    {order : OrderItem}
    (isGiven : order.IsGiven)
    (listed : List SelectItem) :
    isMissing listed order = true ↔ order.IsHidden listed := by
  cases isGiven with
  | position => simp [isMissing, OrderItem.IsHidden, OrderItem.qualifiedName?]
  | column owner name direction aliasName =>
      have shown := fun item =>
        @shows_iff ⟨owner, some name, none, direction, aliasName⟩ name rfl item
      simp only [isMissing, isProjected, OrderItem.qualifiedName?, OrderItem.IsHidden, Option.map_some,
        Option.isSome_some, Option.isNone_none, Bool.true_and, Bool.not_eq_true', List.any_eq_false,
        Option.some_inj, exists_eq_left', shown, not_or]

/-- The items behind the averages of a select list. -/
def averageColumns (listed : List SelectItem) : List SelectItem :=
  (averageArguments listed).zipIdx.flatMap fun (argument, number) => averageParts argument number

/-- What a query has for merging its results, besides its `listed` items and the order that is `sorted` by
its own: each column that is hidden is added under an alias of its own, and nothing else is added but what
is behind averages. -/
structure AddsHidden
    (statement : Statement)
    (listed : List SelectItem)
    (sorted : List OrderItem)
    (additions : List String) : Prop where
  items : statement.items = listed ++ averageColumns listed
  order : statement.orderByItems = if sorted.isEmpty then statement.groupByItems else sorted
  marked : ∀ texts, (∃ position, .items position texts ∈ statement.markers) ↔
    texts = additions ∧ additions ≠ []
  added : ∀ order ∈ statement.orderByItems ++ statement.groupByItems, order.IsHidden listed →
    ∃ qualified aliasName, order.qualifiedName? = some qualified ∧ order.aliasName = some aliasName ∧
      qualified ++ " AS " ++ aliasName ∈ additions
  apart : (sorted ++ statement.groupByItems).Pairwise fun first second =>
    first.IsHidden listed → second.IsHidden listed → first.aliasName ≠ second.aliasName
  nothingElse : ∀ text ∈ additions, (∃ item ∈ averageColumns listed, text = addedText item) ∨
    ∃ order ∈ sorted ++ statement.groupByItems, order.IsHidden listed ∧ text = addedColumn order

section Derivation

variable (read : Statement)

/-- The order of a query with aliases for what its select list does not show. -/
def aliasedOrder : List OrderItem :=
  (aliasMissing "ORDER_BY_DERIVED_" read.items 0 read.orderByItems).1

/-- The groups of a query with aliases for what its select list does not show. -/
def aliasedGroups : List OrderItem :=
  (aliasMissing "GROUP_BY_DERIVED_" read.items 0 read.groupByItems).1

/-- The texts that are added to the select list of a query. -/
def additions : List String :=
  (averageColumns read.items).map addedText ++
    (aliasMissing "ORDER_BY_DERIVED_" read.items 0 read.orderByItems).2 ++
    (aliasMissing "GROUP_BY_DERIVED_" read.items 0 read.groupByItems).2

theorem deriveColumns_eq (listStop : Nat) :
    read.deriveColumns listStop =
      { read with
        orderByItems := read.aliasedOrder
        groupByItems := read.aliasedGroups
        items := read.items ++ averageColumns read.items
        markers := read.markers ++
          if read.additions.isEmpty then [] else [.items listStop read.additions] } := by
  change (if read.additions.isEmpty then _ else Statement.mark _ _) = _
  cases isEmpty : read.additions.isEmpty with
  | true =>
      rw [if_pos rfl, if_pos rfl, List.append_nil]
      rfl
  | false =>
      rw [if_neg Bool.false_ne_true, if_neg Bool.false_ne_true]
      rfl

/-- Only the order is changed by deriving it, and a marker is added that is no addition to the list. -/
theorem deriveOrder_eq (groupByStop : Option Nat) :
    ∃ markers : List Marker, (∀ position texts, .items position texts ∉ markers) ∧
      read.deriveOrder groupByStop =
        { read with
          orderByItems := if read.orderByItems.isEmpty then read.groupByItems else read.orderByItems
          markers := read.markers ++ markers } := by
  unfold deriveOrder
  cases noOrder : read.orderByItems.isEmpty with
  | false =>
      refine ⟨[], nofun, ?_⟩
      rw [Bool.not_false, Bool.or_true, if_pos rfl, if_neg Bool.false_ne_true, List.append_nil]
  | true =>
      rw [Bool.not_true, Bool.or_false, if_pos rfl]
      cases noGroups : read.groupByItems.isEmpty with
      | true =>
          have bothEmpty : read.orderByItems = read.groupByItems :=
            (List.isEmpty_iff.mp noOrder).trans (List.isEmpty_iff.mp noGroups).symm
          refine ⟨[], nofun, ?_⟩
          rw [if_pos rfl, List.append_nil]
          exact congrArg (fun order => { read with orderByItems := order }) bothEmpty
      | false =>
          rw [if_neg Bool.false_ne_true]
          cases groupByStop with
          | none => exact ⟨[], nofun, by rw [List.append_nil]⟩
          | some stop => exact ⟨[.orderBy stop], by simp, rfl⟩

/-- The columns that are added are those that are missing in the order and in the groups. -/
theorem additions_eq :
    read.additions = (averageColumns read.items).map addedText ++
      ((read.aliasedOrder ++ read.aliasedGroups).filter (isMissing read.items)).map addedColumn := by
  rw [additions, aliasMissing_added, aliasMissing_added, List.append_assoc, ← List.map_append,
    ← List.filter_append]
  rfl

theorem exists_alias_of_missing
    {order : OrderItem}
    (member : order ∈ read.aliasedOrder ++ read.aliasedGroups)
    (missing : isMissing read.items order = true) :
    ∃ aliasName, order.aliasName = some aliasName := by
  rcases List.mem_append.mp member with isOrder | isGroup
  · obtain ⟨number, isAlias⟩ := exists_number_of_missing _ _ _ isOrder missing
    exact ⟨_, isAlias⟩
  · obtain ⟨number, isAlias⟩ := exists_number_of_missing _ _ _ isGroup missing
    exact ⟨_, isAlias⟩

/-- The aliases of missing columns differ: those of the order by their stem from those of the groups, and
else by their numbers. -/
theorem pairwise_aliased :
    (read.aliasedOrder ++ read.aliasedGroups).Pairwise fun first second =>
      isMissing read.items first = true → isMissing read.items second = true →
        first.aliasName ≠ second.aliasName := by
  refine List.pairwise_append.mpr ⟨pairwise_aliasMissing _ _ _, pairwise_aliasMissing _ _ _, ?_⟩
  intro first isOrder second isGroup firstMissing secondMissing same
  obtain ⟨number, isFirst⟩ := exists_number_of_missing _ _ _ isOrder firstMissing
  obtain ⟨other, isSecond⟩ := exists_number_of_missing _ _ _ isGroup secondMissing
  rw [isFirst, isSecond] at same
  have spelled := congrArg String.toList (Option.some_inj.mp same)
  simp only [missingAlias, String.toList_append] at spelled
  exact absurd (List.cons.inj spelled).1 (by decide)

theorem items_mem_derived
    {listStop : Nat}
    {markers : List Marker}
    (unlisted : ∀ position items, .items position items ∉ read.markers)
    (noItems : ∀ position texts, .items position texts ∉ markers)
    (texts : List String) :
    (∃ position, .items position texts ∈
      (read.markers ++ if read.additions.isEmpty then [] else [.items listStop read.additions]) ++
        markers) ↔ texts = read.additions ∧ read.additions ≠ [] := by
  constructor
  · rintro ⟨position, isMarker⟩
    rcases List.mem_append.mp isMarker with isEarlier | isLater
    · rcases List.mem_append.mp isEarlier with isRead | isAdded
      · exact absurd isRead (unlisted position texts)
      · split at isAdded
        next => cases isAdded
        next notEmpty =>
          cases List.mem_singleton.mp isAdded
          exact ⟨rfl, fun isEmpty => notEmpty (List.isEmpty_iff.mpr isEmpty)⟩
    · exact absurd isLater (noItems position texts)
  · rintro ⟨rfl, notEmpty⟩
    refine ⟨listStop, List.mem_append_left _ (List.mem_append_right _ ?_)⟩
    rw [if_neg (by simpa using notEmpty)]
    exact List.mem_cons_self

end Derivation

/-- A derived query adds what is hidden, if the items of its groups and its order are given by name or by
position. -/
theorem addsHidden_of_derived
    {read : Statement}
    (groupsGiven : ∀ item ∈ read.groupByItems, OrderItem.IsGiven item)
    (orderGiven : ∀ item ∈ read.orderByItems, OrderItem.IsGiven item)
    (unlisted : ∀ position items, .items position items ∉ read.markers)
    (listStop : Nat)
    (groupByStop : Option Nat) :
    ((read.deriveColumns listStop).deriveOrder groupByStop).AddsHidden read.items read.aliasedOrder
      read.additions := by
  obtain ⟨markers, noItems, derived⟩ := (read.deriveColumns listStop).deriveOrder_eq groupByStop
  rw [derived, deriveColumns_eq]
  have given : ∀ order ∈ read.aliasedOrder ++ read.aliasedGroups, OrderItem.IsGiven order :=
    List.forall_mem_append.mpr
      ⟨aliasMissing_isGiven _ _ _ orderGiven, aliasMissing_isGiven _ _ _ groupsGiven⟩
  constructor
  case items => rfl
  case order => rfl
  case marked => exact read.items_mem_derived unlisted noItems
  case added =>
    intro order member isHidden
    have isThere : order ∈ read.aliasedOrder ++ read.aliasedGroups := by
      rcases List.mem_append.mp member with isOrder | isGroup
      · dsimp only at isOrder
        split at isOrder
        · exact List.mem_append_right _ isOrder
        · exact List.mem_append_left _ isOrder
      · exact List.mem_append_right _ isGroup
    have missing := (isMissing_iff (given order isThere) read.items).mpr isHidden
    obtain ⟨aliasName, isAlias⟩ := read.exists_alias_of_missing isThere missing
    obtain ⟨name, isName, -⟩ := isHidden
    refine ⟨order.qualifiedName?.getD "", aliasName, ?_, isAlias, ?_⟩
    · rw [OrderItem.qualifiedName?, isName]
      rfl
    · have isAdded : addedColumn order ∈ read.additions := by
        rw [additions_eq]
        exact List.mem_append_right _
          (List.mem_map_of_mem (List.mem_filter.mpr ⟨isThere, missing⟩))
      rwa [addedColumn, isAlias] at isAdded
  case apart =>
    refine read.pairwise_aliased.imp_of_mem fun isFirst isSecond differ firstHidden secondHidden => ?_
    exact differ ((isMissing_iff (given _ isFirst) read.items).mpr firstHidden)
      ((isMissing_iff (given _ isSecond) read.items).mpr secondHidden)
  case nothingElse =>
    intro text isAdded
    rw [additions_eq] at isAdded
    rcases List.mem_append.mp isAdded with isAverage | isColumn
    · obtain ⟨item, isItem, rfl⟩ := List.mem_map.mp isAverage
      exact .inl ⟨item, isItem, rfl⟩
    · obtain ⟨order, isOrder, rfl⟩ := List.mem_map.mp isColumn
      obtain ⟨isThere, missing⟩ := List.mem_filter.mp isOrder
      exact .inr ⟨order, isThere, (isMissing_iff (given order isThere) read.items).mp missing, rfl⟩

/-- **Every column to sort or group by that no item of the select list seems to show is added to the list.**
An accepted SELECT is read part by part.  A column that is not among its items, in any of the ways in which
an item holds a column, is added to the list under the alias that it keeps, which no other added column
has; nothing else is added but what is behind averages.  A column is passed over without being among the
items only when an item is mistaken for it, so that a query none of whose items misleads has all columns
by which its results are merged. -/
theorem hidden_columns_added
    {dialect : Dialect}
    {rule : Rule}
    {keys : Keys}
    {sql : String}
    {parameterCount : Nat}
    {statement : Statement}
    (parsed : (Statement.parse dialect rule keys sql parameterCount).1 = .ok statement)
    (isSelect : statement.kind = .select) :
    ∃ front behind sorted additions,
      Parse.leading.outcome (ParseState.start dialect rule keys sql { kind := .select }) =
        (.ok .select, front) ∧
      QueryReading (Parse.query front.cursor.tokens.length 1) front behind ∧
      statement.AddsHidden (behind .lock).statement.items sorted additions := by
  obtain ⟨front, behind, led, derives⟩ := exists_derivesFrom parsed isSelect
  obtain ⟨stop, rfl⟩ := derives.derived
  exact ⟨front, behind, _, _, led, derives.reading, @addsHidden_of_derived (behind .lock).asRead
    derives.sorts.groups derives.sorts.order derives.unlisted stop _⟩

/-- The text of a query that sorts and groups by columns of which its list shows one only. -/
def sortedText : String :=
  "SELECT o.status FROM t_order o GROUP BY status, o.region ORDER BY o.total DESC"

/-- The columns that are not shown are added, each under its own alias. -/
theorem hidden_columns_sortedText :
    ∃ statement,
      (Statement.parse .mysql userRule (Keys.ofRule userRule 0) sortedText 0).1 = .ok statement ∧
      statement.kind = .select ∧
      .items 15 ["o.total AS ORDER_BY_DERIVED_0", "o.region AS GROUP_BY_DERIVED_0"] ∈
        statement.markers ∧
      ∃ front behind sorted,
        QueryReading (Parse.query front.cursor.tokens.length 1) front behind ∧
        statement.AddsHidden (behind .lock).statement.items sorted
          ["o.total AS ORDER_BY_DERIVED_0", "o.region AS GROUP_BY_DERIVED_0"] := by
  have read : (Statement.parse .mysql userRule (Keys.ofRule userRule 0)
      sortedText 0).1.toOption.map (fun statement => (statement.kind, statement.markers)) =
        some (.select, [.table 21 "t_order",
          .items 15 ["o.total AS ORDER_BY_DERIVED_0", "o.region AS GROUP_BY_DERIVED_0"]]) := by
    decide +kernel
  obtain ⟨statement, isParsed, recorded⟩ := Option.map_eq_some_iff.mp read
  obtain ⟨isSelect, areMarkers⟩ := Prod.mk.inj recorded
  have parsed := Success.toOption_eq_some.mp isParsed
  have isMarker : .items 15 ["o.total AS ORDER_BY_DERIVED_0", "o.region AS GROUP_BY_DERIVED_0"] ∈
      statement.markers := by
    rw [areMarkers]
    exact List.mem_cons_of_mem _ List.mem_cons_self
  obtain ⟨front, behind, sorted, additions, -, reading, adds⟩ :=
    hidden_columns_added parsed isSelect
  obtain ⟨rfl, -⟩ := (adds.marked _).mp ⟨15, isMarker⟩
  exact ⟨statement, parsed, isSelect, isMarker, front, behind, sorted, reading, adds⟩

/-- The text of a query whose only item is no column, but ends in the name of the column to sort by. -/
def sumText : String :=
  "SELECT 1 + o.total FROM t_order o ORDER BY total"

/-- The text of a query that gives another column the name of the column to sort by. -/
def renamedText : String :=
  "SELECT status AS total FROM t_order ORDER BY t_order.total"

/-- Whether a query is accepted that sorts by a column `total` which is not among its items, and is not added
to them either. -/
def OmitsTotal (sql : String) : Prop :=
  ∃ statement,
    (Statement.parse .mysql userRule (Keys.ofRule userRule 0) sql 0).1 = .ok statement ∧
    statement.kind = .select ∧
    (∃ order ∈ statement.orderByItems, order.name = some "total" ∧
      ∀ item ∈ statement.items, ¬ item.Delivers order "total") ∧
    ∀ position texts, .items position texts ∉ statement.markers

theorem omitsTotal_of_read
    {sql : String}
    (item : SelectItem)
    (order : OrderItem)
    (markers : List Marker)
    (read : (Statement.parse .mysql userRule (Keys.ofRule userRule 0) sql 0).1.toOption.map
      (fun statement => (statement.kind, statement.items, statement.orderByItems, statement.markers)) =
        some (.select, [item], [order], markers))
    (isName : order.name = some "total")
    (notThere : ¬ item.Delivers order "total")
    (noItems : ∀ position texts, .items position texts ∉ markers) :
    OmitsTotal sql := by
  obtain ⟨statement, isParsed, recorded⟩ := Option.map_eq_some_iff.mp read
  simp only [Prod.mk.injEq] at recorded
  obtain ⟨isSelect, areItems, isOrder, areMarkers⟩ := recorded
  refine ⟨statement, Success.toOption_eq_some.mp isParsed, isSelect, ⟨order, ?_, isName, ?_⟩, ?_⟩
  · rw [isOrder]
    exact List.mem_cons_self
  · rw [areItems]
    exact List.forall_mem_singleton.mpr notThere
  · rwa [areMarkers]

/-- Neither query has the column that it sorts by among its items, and it is not added either. -/
theorem unadded_total : OmitsTotal sumText ∧ OmitsTotal renamedText := by
  constructor
  · refine omitsTotal_of_read (.common "1 + o.total" none) ⟨none, some "total", none, .ascending, none⟩
      [.table 24 "t_order"] (by decide +kernel) rfl ?_ (by simp)
    intro delivers
    cases delivers with
    | column _ same => exact absurd same (by decide)
    | qualified _ isOwner => cases isOwner
    | owned _ _ split isOwner noPoint =>
        -- The column is what stands behind the last point, so that its owner is a sum.
        have isColumn := congrArg behindLastPoint split
        rw [behindLastPoint_append _ noPoint] at isColumn
        rw [← isColumn] at split
        have isSum := (String.append_left_inj ".total").mp
          ((by decide : "1 + o" ++ ".total" = "1 + o.total").trans (split.trans (String.append_assoc)))
        exact absurd ((isSum ▸ isOwner).2 ' ' (by decide)) (by decide)
    | aliased _ isAlias => cases isAlias
  · refine omitsTotal_of_read (.common "status" (some "total"))
      ⟨some "t_order", some "total", none, .ascending, none⟩
      [.table 28 "t_order", .table 45 "t_order"] (by decide +kernel) rfl ?_ (by simp)
    intro delivers
    cases delivers with
    | column _ same => exact absurd same (by decide)
    | qualified _ isOwner same =>
        cases isOwner
        exact absurd same (by decide)
    | owned _ bare => cases bare
    | aliased bare => cases bare

end Statement

end ShardedSql
