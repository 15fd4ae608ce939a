import RiscvGpu.Assembler.FromChars
import RiscvGpu.Assembler.ParserUtils
import RiscvGpu.Assembler.Token
import RiscvGpu.Assembler.Parser
import RiscvGpu.Assembler.Grammar
import RiscvGpu.Assembler.Errors
import RiscvGpu.Simulator.Ports
import RiscvGpu.Simulator.Memory
import RiscvGpu.Simulator.Simulate
import RiscvGpu.Rtl.Fetcher
import RiscvGpu.Rtl.RegFile
