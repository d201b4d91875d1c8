import ImageSensor.Register.Program

/-!
# Register programs of the catalog

Each program takes the sensor from software standby to one operating point: a
1280 by 1080 readout over two lanes from a 26 MHz reference clock.  They differ
in sample depth, in the multipliers and dividers of the clock tree, and in
whether they set the readout orientation.
-/

namespace ImageSensor
namespace Program

/-- The program replayed when the sensor is powered, before any mode. -/
def common : Program :=
  [stop]

/-- Ten bits at 60 frames per second. -/
def tenBits60 : Program :=
  [ ⟨0x011d, 0x00⟩, -- 10 bit
    ⟨0x011f, 0x00⟩,
    ⟨0x012e, 0x02⟩,
    ⟨0x012b, 0x01⟩,
    ⟨0x00bd, 0x00⟩,
    ⟨0x00bc, 0x01⟩,
    ⟨0x00bf, 0x00⟩,
    ⟨0x00c0, 0x00⟩,
    ⟨0x00cd, 0x01⟩,
    ⟨0x00ce, 0x01⟩,
    ⟨0x00cf, 0x00⟩,
    ⟨0x00e1, 0x00⟩,
    ⟨0x011c, 0x00⟩,
    ⟨0x0120, 0x00⟩,
    ⟨0x0125, 0x00⟩,
    ⟨0x003c, 0x01⟩,
    ⟨0x003d, 0x03⟩,
    ⟨0x1201, 0xf0⟩,
    ⟨0x1051, 0x1e⟩,
    ⟨0x1202, 0x70⟩,
    ⟨0x1203, 0x10⟩,
    ⟨0x1070, 0x02⟩,
    ⟨0x1205, 0x00⟩,
    ⟨0x1208, 0x01⟩,
    ⟨0x1000, 0x16⟩,
    ⟨0x1024, 0x00⟩,
    ⟨0x1025, 0x05⟩,
    ⟨0x1026, 0x38⟩,
    ⟨0x1027, 0x04⟩,
    ⟨0x1020, 0x2a⟩,
    ⟨0x1042, 0x03⟩,
    ⟨0x0010, 0x05⟩,
    ⟨0x0012, 0x01⟩,
    ⟨0x0043, 0x03⟩,
    ⟨0x003f, 0x3f⟩,
    ⟨0x0041, 0xff⟩, -- mipi drive strength
    ⟨0x009a, 0x01⟩, -- mirror
    ⟨0x0099, 0x01⟩, -- flip
    ⟨0x00ca, 0x01⟩,
    ⟨0x00e1, 0x00⟩,
    ⟨0x00e2, 0x00⟩,
    ⟨0x0030, 0xc0⟩,
    ⟨0x012c, 0x01⟩,
    ⟨0x004a, 0x01⟩, -- PLL_OUTDIV
    ⟨0x004b, 0x90⟩, -- PLL_FBDIV
    ⟨0x004c, 0x03⟩, -- PLL_DIV_ADC
    ⟨0x004e, 0x01⟩, -- PLL_DIV_BITCLK
    ⟨0x0051, 0x03⟩, -- PLL_DIV_PCLK
    ⟨0x0053, 0x03⟩, -- PLL_DIV_CPCLK
    ⟨0x00d0, 0x9a⟩, -- fot_num 666
    ⟨0x00d1, 0x02⟩,
    ⟨0x00df, 0x42⟩, -- fot_line
    ⟨0x01c9, 0x9a⟩, -- col_n 666
    ⟨0x01ca, 0x02⟩,
    ⟨0x0043, 0x01⟩,
    ⟨0x02fd, 0x58⟩,
    ⟨0x02fe, 0x42⟩,
    ⟨0x031f, 0xb0⟩,
    ⟨0x0320, 0x04⟩,
    ⟨0x0305, 0x08⟩,
    ⟨0x0306, 0x87⟩,
    ⟨0x0307, 0xfc⟩,
    ⟨0x0308, 0x08⟩,
    ⟨0x0317, 0x80⟩,
    ⟨0x0318, 0x0c⟩,
    ⟨0x030f, 0xfa⟩,
    ⟨0x0310, 0x0f⟩,
    ⟨0x02ff, 0xfa⟩,
    ⟨0x0300, 0x8f⟩,
    ⟨0x0309, 0xfa⟩,
    ⟨0x030a, 0x8f⟩,
    ⟨0x00ce, 0x03⟩,
    ⟨0x1000, 0x06⟩,
    ⟨0x1018, 0x01⟩,
    ⟨0x1018, 0x00⟩,
    ⟨0x012a, 0x01⟩,
    ⟨0x012a, 0x00⟩,
    ⟨0x00ce, 0x00⟩,
    ⟨0x00cd, 0x01⟩,
    ⟨0x012a, 0x01⟩, -- latch
    ⟨0x012a, 0x00⟩,
    stop ]

/-- Ten bits at 117 frames per second. -/
def tenBits117 : Program :=
  [ ⟨0x011d, 0x00⟩, -- 10 bit
    ⟨0x011f, 0x00⟩,
    ⟨0x012e, 0x02⟩,
    ⟨0x012b, 0x01⟩,
    ⟨0x00bd, 0x00⟩,
    ⟨0x00bc, 0x01⟩,
    ⟨0x00bf, 0x00⟩,
    ⟨0x00c0, 0x00⟩,
    ⟨0x00cd, 0x01⟩,
    ⟨0x00ce, 0x01⟩,
    ⟨0x00cf, 0x00⟩,
    ⟨0x00e1, 0x00⟩,
    ⟨0x011c, 0x00⟩,
    ⟨0x0120, 0x00⟩,
    ⟨0x0125, 0x00⟩,
    ⟨0x003c, 0x01⟩,
    ⟨0x003d, 0x03⟩,
    ⟨0x1201, 0xf0⟩,
    ⟨0x1051, 0x1e⟩,
    ⟨0x1202, 0x70⟩,
    ⟨0x1203, 0x10⟩,
    ⟨0x1070, 0x02⟩,
    ⟨0x1205, 0x00⟩,
    ⟨0x1208, 0x01⟩,
    ⟨0x1000, 0x16⟩,
    ⟨0x1024, 0x00⟩,
    ⟨0x1025, 0x05⟩,
    ⟨0x1026, 0x38⟩,
    ⟨0x1027, 0x04⟩,
    ⟨0x1020, 0x2a⟩,
    ⟨0x1042, 0x03⟩,
    ⟨0x0010, 0x05⟩,
    ⟨0x0012, 0x01⟩,
    ⟨0x0043, 0x03⟩,
    ⟨0x003f, 0x3f⟩,
    ⟨0x0041, 0xff⟩, -- mipi drive strength
    ⟨0x00ca, 0x01⟩,
    ⟨0x00e1, 0x00⟩,
    ⟨0x00e2, 0x00⟩,
    ⟨0x0030, 0xc0⟩,
    ⟨0x012c, 0x01⟩,
    ⟨0x004a, 0x01⟩, -- PLL_OUTDIV
    ⟨0x004b, 0xd8⟩, -- PLL_FBDIV
    ⟨0x004c, 0x02⟩, -- PLL_DIV_ADC
    ⟨0x004e, 0x01⟩, -- PLL_DIV_BITCLK
    ⟨0x0051, 0x02⟩, -- PLL_DIV_PCLK
    ⟨0x0053, 0x02⟩, -- PLL_DIV_CPCLK
    ⟨0x00d0, 0x9a⟩, -- fot_num 666
    ⟨0x00d1, 0x02⟩,
    ⟨0x00df, 0x42⟩, -- fot_line
    ⟨0x01c9, 0x9a⟩, -- col_n 666
    ⟨0x01ca, 0x02⟩,
    ⟨0x0043, 0x01⟩,
    ⟨0x02fd, 0x58⟩,
    ⟨0x02fe, 0x42⟩,
    ⟨0x031f, 0xb0⟩,
    ⟨0x0320, 0x04⟩,
    ⟨0x0305, 0x08⟩,
    ⟨0x0306, 0x87⟩,
    ⟨0x0307, 0xfc⟩,
    ⟨0x0308, 0x08⟩,
    ⟨0x0317, 0x80⟩,
    ⟨0x0318, 0x0c⟩,
    ⟨0x030f, 0xfa⟩,
    ⟨0x0310, 0x0f⟩,
    ⟨0x02ff, 0xfa⟩,
    ⟨0x0300, 0x8f⟩,
    ⟨0x0309, 0xfa⟩,
    ⟨0x030a, 0x8f⟩,
    ⟨0x00ce, 0x03⟩,
    ⟨0x1000, 0x06⟩,
    ⟨0x1018, 0x01⟩,
    ⟨0x1018, 0x00⟩,
    ⟨0x012a, 0x01⟩,
    ⟨0x012a, 0x00⟩,
    ⟨0x00ce, 0x00⟩,
    ⟨0x00cd, 0x01⟩,
    ⟨0x012a, 0x01⟩, -- latch
    ⟨0x012a, 0x00⟩,
    stop ]

/-- Twelve bits at 30 frames per second. -/
def twelveBits30 : Program :=
  [ ⟨0x011d, 0x01⟩, -- 12 bit
    ⟨0x011f, 0x00⟩,
    ⟨0x012e, 0x02⟩,
    ⟨0x012b, 0x01⟩,
    ⟨0x00bd, 0x00⟩,
    ⟨0x00bc, 0x01⟩,
    ⟨0x00bf, 0x05⟩,
    ⟨0x00c0, 0x00⟩,
    ⟨0x00cd, 0x01⟩,
    ⟨0x00ce, 0x01⟩,
    ⟨0x00cf, 0x00⟩,
    ⟨0x00e1, 0x00⟩,
    ⟨0x011c, 0x00⟩,
    ⟨0x0120, 0x00⟩,
    ⟨0x0125, 0x00⟩,
    ⟨0x003c, 0x01⟩,
    ⟨0x003d, 0x03⟩,
    ⟨0x1201, 0xf0⟩,
    ⟨0x1051, 0x1e⟩,
    ⟨0x1202, 0x70⟩,
    ⟨0x1203, 0x10⟩,
    ⟨0x1070, 0x02⟩,
    ⟨0x1205, 0x00⟩,
    ⟨0x1208, 0x01⟩,
    ⟨0x1000, 0x16⟩,
    ⟨0x1024, 0x00⟩,
    ⟨0x1025, 0x05⟩,
    ⟨0x1026, 0x38⟩,
    ⟨0x1027, 0x04⟩,
    ⟨0x1020, 0x2a⟩,
    ⟨0x1042, 0x03⟩,
    ⟨0x0010, 0x05⟩,
    ⟨0x0012, 0x01⟩,
    ⟨0x0043, 0x03⟩,
    ⟨0x003f, 0x3f⟩,
    ⟨0x0041, 0xff⟩, -- mipi drive strength
    ⟨0x00ca, 0x01⟩,
    ⟨0x00e1, 0x00⟩,
    ⟨0x00e2, 0x00⟩,
    ⟨0x0030, 0xc0⟩,
    ⟨0x012c, 0x01⟩,
    ⟨0x004a, 0x01⟩, -- PLL_OUTDIV
    ⟨0x004b, 0x60⟩, -- PLL_FBDIV
    ⟨0x00d0, 0x9a⟩, -- fot_num 666
    ⟨0x00d1, 0x02⟩,
    ⟨0x00df, 0x42⟩, -- fot_line
    ⟨0x01c9, 0x9a⟩, -- col_n 666
    ⟨0x01ca, 0x02⟩,
    ⟨0x0043, 0x01⟩,
    ⟨0x02fd, 0x58⟩,
    ⟨0x02fe, 0x42⟩,
    ⟨0x031f, 0xb0⟩,
    ⟨0x0320, 0x04⟩,
    ⟨0x0305, 0x08⟩,
    ⟨0x0306, 0x87⟩,
    ⟨0x0307, 0xfc⟩,
    ⟨0x0308, 0x08⟩,
    ⟨0x0317, 0x80⟩,
    ⟨0x0318, 0x0c⟩,
    ⟨0x030f, 0xfa⟩,
    ⟨0x0310, 0x0f⟩,
    ⟨0x02ff, 0xfa⟩,
    ⟨0x0300, 0x8f⟩,
    ⟨0x0309, 0xfa⟩,
    ⟨0x030a, 0x8f⟩,
    ⟨0x00ce, 0x03⟩,
    ⟨0x1000, 0x06⟩,
    ⟨0x1018, 0x01⟩,
    ⟨0x1018, 0x00⟩,
    ⟨0x012a, 0x01⟩,
    ⟨0x012a, 0x00⟩,
    ⟨0x00ce, 0x00⟩,
    ⟨0x00cd, 0x01⟩,
    ⟨0x012a, 0x01⟩, -- latch
    ⟨0x012a, 0x00⟩,
    stop ]

end Program
end ImageSensor
