import ErpLens.Proofs.AccountLinks

/-!
# Accounts listed as a tree

Accounts are listed from the roots down, each followed by all that is listed below it. Accounts that
come back to themselves and accounts without a root are under no root.
-/

open List

namespace ErpLens.Accounts

open Relation

/-! ## Accounts by parent -/

namespace Families

theorem children_cons (key other : Option String) (family : List Account) (rest : Families) :
    children ((key, family) :: rest) other =
      if key = other then family else rest.children other := by
  by_cases same : key = other
  · subst same
    rw [if_pos rfl, children, lookup_cons_self]
    rfl
  · have notSame : (other == key) = false := beq_eq_false_iff_ne.mpr (Ne.symm same)
    rw [if_neg same, children, lookup_cons, notSame]
    rfl

theorem children_add (parent other : Option String) (child : Account) (families : Families) :
    (add parent child families).children other =
      families.children other ++ if parent = other then [child] else [] := by
  induction families with
  | nil =>
    rw [add, children_cons]
    rfl
  | cons family rest ih =>
    rcases family with ⟨key, family⟩
    rw [add]
    split
    · next same =>
      subst same
      rw [children_cons, children_cons]
      split <;> simp
    · next different =>
      rw [children_cons, children_cons, ih]
      split
      · next same => rw [if_neg fun back => different (same.trans back.symm), append_nil]
      · rfl

theorem children_foldl_add (other : Option String) (accounts : List Account)
    (families : Families) :
    children (accounts.foldl (fun families account => add account.parent account families) families)
        other =
      families.children other ++ accounts.filter (·.parent = other) := by
  induction accounts generalizing families with
  | nil => exact (append_nil _).symm
  | cons account rest ih =>
    rw [foldl_cons, ih, children_add, append_assoc, filter_cons]
    split <;> simp_all

/-- A family has the accounts with that parent, in their order. -/
theorem children_ofAccounts (accounts : List Account) (parent : Option String) :
    (ofAccounts accounts).children parent = accounts.filter (·.parent = parent) :=
  (children_foldl_add parent accounts []).trans (nil_append _)

theorem children_setChildren_perm {parent : Option String} {sorted : List Account}
    {families : Families} (permuted : sorted.Perm (families.children parent))
    (other : Option String) :
    ((families.setChildren parent sorted).children other).Perm (families.children other) := by
  induction families with
  | nil => exact .refl _
  | cons family rest ih =>
    rcases family with ⟨key, family⟩
    rw [children_cons] at permuted
    rw [setChildren]
    split
    · next same =>
      rw [if_pos same] at permuted
      rw [children_cons, children_cons]
      split
      · exact permuted
      · exact .refl _
    · next different =>
      rw [if_neg different] at permuted
      rw [children_cons, children_cons]
      split
      · exact .refl _
      · exact ih permuted

end Families

/-! ## What is listed below a parent -/

section Listing

variable (accounts : List Account)

/-- Every family holds the accounts with that parent, in some order. -/
def HasFamilies (families : Families) : Prop :=
  ∀ parent, (families.children parent).Perm (accounts.filter (·.parent = parent))

/-- What is listed below a parent, from a level on and down to some levels: its accounts in some
order, each followed by what is listed below it. -/
def IsListing : Nat → Option String → Nat → List (Account × Nat) → Prop
  | 0, _, _, listed => listed = []
  | depth + 1, parent, level, listed =>
    ∃ blocks : List (Account × List (Account × Nat)),
      (blocks.map Prod.fst).Perm (accounts.filter (·.parent = parent)) ∧
      (∀ block ∈ blocks, IsListing depth block.1.name (level + 1) block.2) ∧
      listed = blocks.flatMap fun block => (block.1, level) :: block.2

variable {accounts}

theorem exists_blocks_foldl {depth level : Nat} {step : Arrangement → Account → Arrangement}
    (stepListing : ∀ arrangement child, HasFamilies accounts arrangement.families →
      ∃ below, (step arrangement child).listed = arrangement.listed ++ (child, level) :: below ∧
        IsListing accounts depth child.name (level + 1) below ∧
        HasFamilies accounts (step arrangement child).families)
    (children : List Account) {arrangement : Arrangement}
    (families : HasFamilies accounts arrangement.families) :
    ∃ blocks : List (Account × List (Account × Nat)), blocks.map Prod.fst = children ∧
      (∀ block ∈ blocks, IsListing accounts depth block.1.name (level + 1) block.2) ∧
      (children.foldl step arrangement).listed =
        arrangement.listed ++ blocks.flatMap (fun block => (block.1, level) :: block.2) ∧
      HasFamilies accounts (children.foldl step arrangement).families := by
  induction children generalizing arrangement with
  | nil => exact ⟨[], rfl, forall_mem_nil _, (append_nil _).symm, families⟩
  | cons child rest ih =>
    rcases stepListing arrangement child families with ⟨below, listedEq, isListing, families⟩
    rcases ih families with ⟨blocks, blocksEq, areListings, restEq, families⟩
    refine ⟨(child, below) :: blocks, by rw [map_cons, blocksEq],
      forall_mem_cons.mpr ⟨isListing, areListings⟩, ?_, families⟩
    rw [foldl_cons, restEq, listedEq, append_assoc]
    rfl

theorem exists_isListing_addBelow {depth : Nat} {parent : Option String} {level : Nat}
    {arrangement : Arrangement} (families : HasFamilies accounts arrangement.families) :
    ∃ listed, (arrangement.addBelow parent level depth).listed = arrangement.listed ++ listed ∧
      IsListing accounts depth parent level listed ∧
      HasFamilies accounts (arrangement.addBelow parent level depth).families := by
  induction depth generalizing parent level arrangement with
  | zero => exact ⟨[], (append_nil _).symm, rfl, families⟩
  | succ depth ih =>
    let children := sortAccounts parent.isNone (arrangement.families.children parent)
    have sorted : children.Perm (arrangement.families.children parent) := sortBelow_perm _ _
    have startFamilies : HasFamilies accounts
        { arrangement with
          families := arrangement.families.setChildren parent children }.families :=
      fun other => (Families.children_setChildren_perm sorted other).trans (families other)
    rcases exists_blocks_foldl (fun before child beforeFamilies => by
        rcases @ih child.name (level + 1)
          { before with listed := before.listed ++ [(child, level)] } beforeFamilies with
          ⟨below, listedEq, isListing, families⟩
        exact ⟨below, by rw [listedEq, append_assoc]; rfl, isListing, families⟩)
      children startFamilies
      with ⟨blocks, blocksEq, areListings, listedEq, families'⟩
    refine ⟨_, listedEq, ⟨blocks, ?_, areListings, rfl⟩, families'⟩
    rw [blocksEq]
    exact sorted.trans (families parent)

/-- What is arranged is a listing from the roots down. -/
theorem isListing_arrange (depth : Nat) (accounts : List Account) :
    IsListing accounts depth none 0 (arrange depth accounts).listed ∧
      HasFamilies accounts (arrange depth accounts).families := by
  have start : HasFamilies accounts (Families.ofAccounts accounts) := fun parent =>
    .of_eq (Families.children_ofAccounts accounts parent)
  rcases @exists_isListing_addBelow accounts depth none 0 { families := .ofAccounts accounts } start
    with ⟨listed, listedEq, listing, families⟩
  rw [nil_append] at listedEq
  exact ⟨listedEq ▸ listing, families⟩

end Listing

/-! ## Which accounts are listed -/

namespace Account

/-- The name of an account, empty if it has none. -/
def title (account : Account) : String :=
  account.name.getD ""

end Account

/-- The links that accounts state. -/
def accountLinks (accounts : List Account) : Links :=
  accounts.map fun account => (account.title, account.parent)

theorem mem_accountLinks {accounts : List Account} {name : String} {parent : Option String} :
    (name, parent) ∈ accountLinks accounts ↔
      ∃ account ∈ accounts, account.title = name ∧ account.parent = parent := by
  simp [accountLinks]

/-- An account is somewhere below a parent; every account counts as below no parent. -/
def Links.Under (links : Links) : Option String → String → Prop
  | none, _ => True
  | some parent, name => TransGen links.Parent name parent

theorem Links.HasDepth.exists_root {links : Links} {name : String} {depth : Nat}
    (hasDepth : links.HasDepth name depth) :
    ∃ root, (root, none) ∈ links ∧ ReflTransGen links.Parent name root := by
  induction hasDepth with
  | root isRoot => exact ⟨_, isRoot, .refl⟩
  | step isChild _ ih =>
    rcases ih with ⟨root, isRoot, below⟩
    exact ⟨root, isRoot, .head isChild below⟩

theorem exists_top {accounts : List Account} {parent : Option String} {name : String} {depth : Nat}
    (under : (accountLinks accounts).Under parent name)
    (hasDepth : (accountLinks accounts).HasDepth name depth) :
    ∃ top ∈ accounts, top.parent = parent ∧
      ReflTransGen (accountLinks accounts).Parent name top.title := by
  cases parent with
  | none =>
    rcases hasDepth.exists_root with ⟨root, isRoot, below⟩
    rcases mem_accountLinks.mp isRoot with ⟨top, topMem, rfl, isTop⟩
    exact ⟨top, topMem, isTop, below⟩
  | some parent =>
    rcases TransGen.tail'_iff.mp under with ⟨child, below, isChild⟩
    rcases mem_accountLinks.mp isChild with ⟨top, topMem, rfl, isTop⟩
    exact ⟨top, topMem, isTop, below⟩

section Listed

variable {level depth : Nat} {parent : Option String} {listed : List (Account × Nat)}
  {accounts : List Account} (distinct : (accounts.map Account.title).Nodup)
  (named : ∀ account ∈ accounts, account.name = some account.title)

theorem nodup_accountLinks (distinct : (accounts.map Account.title).Nodup) :
    ((accountLinks accounts).map Prod.fst).Nodup := by
  rw [accountLinks, List.map_map]
  exact distinct

/-- Every account of a parent has the level at which it is listed as its depth. -/
def LevelIs (accounts : List Account) (parent : Option String) (level : Nat) : Prop :=
  ∀ account ∈ accounts, account.parent = parent →
    (accountLinks accounts).HasDepth account.title level

theorem levelIs_none (accounts : List Account) : LevelIs accounts none 0 :=
  fun account accountMem isRoot => .root (mem_accountLinks.mpr ⟨account, accountMem, rfl, isRoot⟩)

theorem levelIs_some {name : String} (hasDepth : (accountLinks accounts).HasDepth name level) :
    LevelIs accounts (some name) (level + 1) := fun account accountMem isChild =>
  .step (mem_accountLinks.mpr ⟨account, accountMem, rfl, isChild⟩) hasDepth

theorem block_spec (named : ∀ account ∈ accounts, account.name = some account.title)
    (levelIs : LevelIs accounts parent level) {blocks : List (Account × List (Account × Nat))}
    (permuted : (blocks.map Prod.fst).Perm (accounts.filter (·.parent = parent)))
    (areListings : ∀ block ∈ blocks, IsListing accounts depth block.1.name (level + 1) block.2)
    {block : Account × List (Account × Nat)} (isBlock : block ∈ blocks) :
    (block.1 ∈ accounts ∧ block.1.parent = parent) ∧
      IsListing accounts depth (some block.1.title) (level + 1) block.2 ∧
      LevelIs accounts (some block.1.title) (level + 1) := by
  have isTop := permuted.mem_iff.mp (mem_map_of_mem isBlock)
  rw [mem_filter, decide_eq_true_eq] at isTop
  refine ⟨isTop, ?_, levelIs_some (levelIs _ isTop.1 isTop.2)⟩
  exact named _ isTop.1 ▸ areListings block isBlock

include distinct named

/-- Listed are the accounts below the parent whose depth is within bounds, each at its depth. -/
theorem IsListing.mem_iff (listing : IsListing accounts depth parent level listed)
    (levelIs : LevelIs accounts parent level) (entry : Account × Nat) :
    entry ∈ listed ↔ entry.1 ∈ accounts ∧
      (accountLinks accounts).Under parent entry.1.title ∧
      (accountLinks accounts).HasDepth entry.1.title entry.2 ∧ entry.2 < level + depth := by
  have distinctLinks := nodup_accountLinks distinct
  rcases entry with ⟨account, n⟩
  dsimp only
  induction depth generalizing parent level listed with
  | zero =>
    rw [listing]
    refine ⟨fun isMem => (not_mem_nil isMem).elim, ?_⟩
    rintro ⟨accountMem, under, hasDepth, shallow⟩
    rcases exists_top under hasDepth with ⟨top, topMem, isTop, below⟩
    have topDepth := levelIs top topMem isTop
    rcases reflTransGen_iff_eq_or_transGen.mp below with sameTitle | below
    · rw [sameTitle] at topDepth
      have := hasDepth.unique distinctLinks topDepth
      omega
    · have := Links.HasDepth.lt_of_transGen distinctLinks below hasDepth topDepth
      omega
  | succ depth ih =>
    rcases listing with ⟨blocks, permuted, areListings, rfl⟩
    rw [mem_flatMap]
    constructor
    · rintro ⟨block, isBlock, isMem⟩
      rcases block_spec named levelIs permuted areListings isBlock with
        ⟨⟨topMem, isTop⟩, listing, belowLevelIs⟩
      have topLink := mem_accountLinks.mpr ⟨block.1, topMem, rfl, isTop⟩
      rcases mem_cons.mp isMem with isHead | isMem
      · cases isHead
        refine ⟨topMem, ?_, levelIs _ topMem isTop, by omega⟩
        cases parent with
        | none => trivial
        | some parent => exact .single topLink
      · rcases (ih listing belowLevelIs).mp isMem with ⟨accountMem, below, hasDepth, shallow⟩
        refine ⟨accountMem, ?_, hasDepth, by omega⟩
        cases parent with
        | none => trivial
        | some parent => exact TransGen.tail below topLink
    · rintro ⟨accountMem, under, hasDepth, shallow⟩
      rcases exists_top under hasDepth with ⟨top, topMem, isTop, below⟩
      have topListed := permuted.mem_iff.mpr (mem_filter.mpr ⟨topMem, decide_eq_true isTop⟩)
      rcases mem_map.mp topListed with ⟨block, isBlock, rfl⟩
      refine ⟨block, isBlock, mem_cons.mpr ?_⟩
      rcases reflTransGen_iff_eq_or_transGen.mp below with sameTitle | below
      · left
        have sameAccount : block.1 = account :=
          inj_on_of_nodup_map distinct topMem accountMem sameTitle
        rw [sameAccount] at isTop ⊢
        rw [hasDepth.unique distinctLinks (levelIs account accountMem isTop)]
      · right
        rcases block_spec named levelIs permuted areListings isBlock with
          ⟨-, listing, belowLevelIs⟩
        exact (ih listing belowLevelIs).mpr ⟨accountMem, below, hasDepth, by omega⟩

omit named in
theorem LevelIs.not_transGen (levelIs : LevelIs accounts parent level) {low high : Account}
    (isLow : low ∈ accounts ∧ low.parent = parent)
    (isHigh : high ∈ accounts ∧ high.parent = parent) :
    ¬ TransGen (accountLinks accounts).Parent low.title high.title := fun below =>
  (Links.HasDepth.lt_of_transGen (nodup_accountLinks distinct) below
    (levelIs low isLow.1 isLow.2) (levelIs high isHigh.1 isHigh.2)).false

omit named in
theorem LevelIs.eq_of_above (levelIs : LevelIs accounts parent level) {first second : Account}
    (isFirst : first ∈ accounts ∧ first.parent = parent)
    (isSecond : second ∈ accounts ∧ second.parent = parent) {name : String}
    (firstAbove : ReflTransGen (accountLinks accounts).Parent name first.title)
    (secondAbove : ReflTransGen (accountLinks accounts).Parent name second.title) :
    first = second := by
  refine inj_on_of_nodup_map distinct isFirst.1 isSecond.1 ?_
  rcases ReflTransGen.total_of_right_unique (Links.rightUnique (nodup_accountLinks distinct))
    firstAbove secondAbove with below | below
  · rcases reflTransGen_iff_eq_or_transGen.mp below with sameTitle | below
    · exact sameTitle.symm
    · exact (levelIs.not_transGen distinct isFirst isSecond below).elim
  · rcases reflTransGen_iff_eq_or_transGen.mp below with sameTitle | below
    · exact sameTitle
    · exact (levelIs.not_transGen distinct isSecond isFirst below).elim

theorem IsListing.nodup (listing : IsListing accounts depth parent level listed)
    (levelIs : LevelIs accounts parent level) : listed.Nodup := by
  induction depth generalizing parent level listed with
  | zero =>
    rw [listing]
    exact nodup_nil
  | succ depth ih =>
    rcases listing with ⟨blocks, permuted, areListings, rfl⟩
    have spec := fun {block} =>
      @block_spec level depth parent accounts named levelIs blocks permuted areListings block
    have isBelow : ∀ block ∈ blocks, ∀ entry ∈ block.2,
        TransGen (accountLinks accounts).Parent entry.1.title block.1.title := by
      intro block isBlock entry isMem
      rcases spec isBlock with ⟨-, isListing, belowLevelIs⟩
      exact ((isListing.mem_iff distinct named belowLevelIs entry).mp isMem).2.1
    have atOrBelow : ∀ block ∈ blocks, ∀ entry ∈ (block.1, level) :: block.2,
        ReflTransGen (accountLinks accounts).Parent entry.1.title block.1.title := by
      intro block isBlock entry isMem
      rcases mem_cons.mp isMem with rfl | isMem
      · exact .refl
      · exact (isBelow block isBlock entry isMem).to_reflTransGen
    have distinctTops : (blocks.map Prod.fst).Nodup :=
      permuted.nodup_iff.mpr (distinct.of_map.filter _)
    refine nodup_flatMap.mpr ⟨fun block isBlock => ?_,
      (pairwise_map.mp distinctTops).imp_of_mem ?_⟩
    · rcases spec isBlock with ⟨isTop, isListing, belowLevelIs⟩
      refine nodup_cons.mpr ⟨fun isMem => ?_, ih isListing belowLevelIs⟩
      exact levelIs.not_transGen distinct isTop isTop (isBelow block isBlock _ isMem)
    · intro first second isFirst isSecond different entry inFirst inSecond
      exact different (levelIs.eq_of_above distinct (spec isFirst).1 (spec isSecond).1
        (atOrBelow first isFirst entry inFirst) (atOrBelow second isSecond entry inSecond))

omit distinct named in
theorem IsListing.exists_below (listing : IsListing accounts depth parent level listed)
    {before after : List (Account × Nat)} {account : Account} {n : Nat}
    (split : listed = before ++ (account, n) :: after) :
    ∃ further below rest, after = below ++ rest ∧ n + 1 + further = level + depth ∧
      IsListing accounts further account.name (n + 1) below := by
  induction depth generalizing parent level listed before after with
  | zero =>
    rw [listing] at split
    cases before <;> cases split
  | succ depth ih =>
    rcases listing with ⟨blocks, -, areListings, rfl⟩
    induction blocks generalizing before with
    | nil => cases before <;> cases split
    | cons block blocks blocksIh =>
      rw [forall_mem_cons] at areListings
      rw [flatMap_cons] at split
      rcases append_eq_append_iff.mp split with
        ⟨later, rfl, laterEq⟩ | ⟨inBlock, blockEq, afterEq⟩
      · exact blocksIh areListings.2 laterEq
      · cases inBlock with
        | nil =>
          have laterEq := afterEq.symm.trans (nil_append _).symm
          exact blocksIh areListings.2 laterEq
        | cons entry inBlock =>
          cases afterEq
          cases before with
          | nil =>
            cases blockEq
            exact ⟨depth, _, _, rfl, by omega, areListings.1⟩
          | cons first before =>
            rcases ih areListings.1 (List.cons.inj blockEq).2 with
              ⟨further, below, rest, rfl, depthEq, isListing⟩
            exact ⟨further, below, rest ++ _, append_assoc .., by omega, isListing⟩

/-- What is below an account follows it without a gap. -/
theorem IsListing.exists_below_iff {before after : List (Account × Nat)}
    (listing : IsListing accounts depth none 0 listed) {account : Account} {n : Nat}
    (split : listed = before ++ (account, n) :: after) :
    ∃ below rest, after = below ++ rest ∧ ∀ entry ∈ listed,
      (entry ∈ below ↔ TransGen (accountLinks accounts).Parent entry.1.title account.title) := by
  have memIff := listing.mem_iff distinct named (levelIs_none accounts)
  have isListed : (account, n) ∈ listed := by simp [split]
  rcases (memIff _).mp isListed with ⟨accountMem, -, hasDepth, -⟩
  rcases listing.exists_below split with ⟨further, below, rest, afterEq, depthEq, belowListing⟩
  rw [named account accountMem] at belowListing
  have belowIff := belowListing.mem_iff distinct named (levelIs_some hasDepth)
  refine ⟨below, rest, afterEq, fun entry entryListed => ?_⟩
  rcases (memIff entry).mp entryListed with ⟨entryMem, -, entryDepth, shallow⟩
  refine ⟨fun isBelow => ((belowIff entry).mp isBelow).2.1, fun isUnder => ?_⟩
  exact (belowIff entry).mpr ⟨entryMem, isUnder, entryDepth, by omega⟩

theorem IsListing.parent_before {before after : List (Account × Nat)}
    (listing : IsListing accounts depth none 0 listed) {account : Account} {n : Nat}
    (split : listed = before ++ (account, n) :: after) {parent : String}
    (isChild : account.parent = some parent) : ∃ entry ∈ before, entry.1.title = parent := by
  have distinctLinks := nodup_accountLinks distinct
  have memIff := listing.mem_iff distinct named (levelIs_none accounts)
  have isListed : (account, n) ∈ listed := by simp [split]
  rcases (memIff _).mp isListed with ⟨accountMem, -, hasDepth, shallow⟩
  have link := mem_accountLinks.mpr ⟨account, accountMem, rfl, isChild⟩
  rcases hasDepth.exists_parent distinctLinks link with ⟨above, rfl, parentDepth⟩
  rcases parentDepth.exists_link with ⟨grandparent, parentLink⟩
  rcases mem_accountLinks.mp parentLink with ⟨top, topMem, rfl, -⟩
  have topListed := (memIff (top, above)).mpr ⟨topMem, trivial, parentDepth, by omega⟩
  rw [split] at topListed
  rcases mem_append.mp topListed with isBefore | topListed
  · exact ⟨_, isBefore, rfl⟩
  · exfalso
    have nodup := listing.nodup distinct named (levelIs_none accounts)
    rcases mem_cons.mp topListed with isSame | isAfter
    · have := congrArg Prod.snd isSame
      simp at this
    · -- After its parent the account would be listed a second time.
      rcases append_of_mem isAfter with ⟨between, later, rfl⟩
      have topSplit : listed =
          (before ++ (account, above + 1) :: between) ++ (top, above) :: later := by
        rw [split, append_assoc]
        rfl
      rcases listing.exists_below_iff distinct named topSplit with ⟨below, rest, rfl, belowIff⟩
      have isBelow := (belowIff _ isListed).mpr (.single link)
      rw [split] at nodup
      have notAfter := (nodup_cons.mp (nodup_append.mp nodup).2.1).1
      exact notAfter (by simp [isBelow])

end Listed

end ErpLens.Accounts
