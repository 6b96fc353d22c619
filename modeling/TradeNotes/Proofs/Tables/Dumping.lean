import TradeNotes.Proofs.Tables.Names
import TradeNotes.Proofs.Text.ByteOrder
import TradeNotes.Tables.Dump

namespace TradeNotes

variable {α : Type}

namespace Tables

end Tables

end TradeNotes
