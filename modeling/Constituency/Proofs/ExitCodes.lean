import Constituency.CommandLine
import Constituency.Proofs.ParsedTexts

namespace Constituency.CommandLine

variable {arguments : Arguments} {standardInput : ByteArray} {text : String}

end Constituency.CommandLine
