import EdenPS5.PS5Graphics.GNMWrapper
import EdenPS5.PS5Graphics.BumpAllocator
import EdenPS5.PS5Graphics.Renderer
import EdenPS5.PS5Graphics.FrameRotation
import EdenPS5.PS5Graphics.Present
import EdenPS5.PS5Graphics.RendererMemory
import EdenPS5.EtahenIntegration.Plugin
import EdenPS5.MainPS5.Application
import EdenPS5.PS5Audio.AudioManager
import EdenPS5.PS5Input.InputManager
import EdenPS5.MainPS5.Main
import EdenPS5.EtahenIntegration.Sockets
import EdenPS5.MainPS5.Objects
import EdenPS5.EtahenIntegration.Registration
